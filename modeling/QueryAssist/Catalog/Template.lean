import QueryAssist.Text.Digit
/-!
# Templates

A template is JSON text with numbered places for the reader to fill in, some with a default. It is
written with placeholders `${1:default}` and `${1}`; stripping leaves the defaults.
-/

namespace QueryAssist.Catalog

inductive Piece
  | text (s : String)
  | hole (number : Nat)
  | slot (number : Nat) (default : String)
  deriving DecidableEq, Repr

instance : Coe String Piece := ⟨.text⟩

def Piece.source : Piece → String
  | text s => s
  | hole number => "$\x7b" ++ toString number ++ "\x7d"
  | slot number default => "$\x7b" ++ toString number ++ ":" ++ default ++ "\x7d"

abbrev Template := List Piece

def Template.source (t : Template) : String :=
  String.join (t.map Piece.source)

/-- JSON text as it is laid out: containers stand on one line or, as blocks, with one part on each
line. -/
inductive Sketch
  | raw (pieces : Template)
  | quoted (pieces : Template)
  | entry (key : Template) (value : Sketch)
  | object (parts : List Sketch)
  | array (parts : List Sketch)
  | objectBlock (parts : List Sketch)
  | arrayBlock (parts : List Sketch)

namespace Sketch

def inQuotes (pieces : Template) : Template :=
  .text "\"" :: pieces ++ [.text "\""]

def newline (indent : Nat) : Piece :=
  .text (String.ofList ('\n' :: List.replicate (2 * indent) ' '))

def line (left right : String) (parts : List Template) : Template :=
  .text left :: [.text ", "].intercalate parts ++ [.text right]

def block (indent : Nat) (left right : String) (parts : List Template) : Template :=
  .text left :: newline (indent + 1) ::
    [.text ",", newline (indent + 1)].intercalate parts ++ [newline indent, .text right]

mutual

def layOut (indent : Nat) : Sketch → Template
  | raw pieces => pieces
  | quoted pieces => inQuotes pieces
  | entry key value => inQuotes key ++ .text ": " :: layOut indent value
  | object [] => [.text "\x7b\x7d"]
  | object parts => line "\x7b " " \x7d" (layOutAll indent parts)
  | array parts => line "[" "]" (layOutAll indent parts)
  | objectBlock parts => block indent "\x7b" "\x7d" (layOutAll (indent + 1) parts)
  | arrayBlock parts => block indent "[" "]" (layOutAll (indent + 1) parts)

def layOutAll (indent : Nat) : List Sketch → List Template
  | [] => []
  | part :: rest => layOut indent part :: layOutAll indent rest

end

def source (s : Sketch) : String :=
  (s.layOut 0).source

end Sketch

/-- The default of the placeholder whose `$` stands before the text, with the text after it. Digits
of every script may number a placeholder. -/
def placeholder? : List Char → Option (List Char × List Char)
  | '\x7b' :: body =>
      if (body.takeWhile Text.isDigit).isEmpty then none
      else
        match body.dropWhile Text.isDigit with
        | '\x7d' :: after => some ([], after)
        | ':' :: rest =>
            match rest.dropWhile (· != '\x7d') with
            | _ :: after => some (rest.takeWhile (· != '\x7d'), after)
            | [] => none
        | _ => none
  | _ => none

private theorem length_dropWhile_le_of_char (p : Char → Bool) (cs : List Char) :
    (cs.dropWhile p).length ≤ cs.length :=
  (List.dropWhile_sublist p).length_le

theorem length_lt_of_placeholder? {cs default after : List Char}
    (h : placeholder? cs = some (default, after)) : after.length < cs.length := by
  unfold placeholder? at h
  split at h
  · rename_i body
    have hbody := length_dropWhile_le_of_char Text.isDigit body
    split at h
    · simp at h
    · split at h
      · rename_i rest heq
        simp only [Option.some.injEq, Prod.mk.injEq] at h
        simp only [heq, List.length_cons] at hbody
        simp only [List.length_cons, ← h.2]
        omega
      · rename_i rest heq
        have hrest := length_dropWhile_le_of_char (· != '\x7d') rest
        simp only [heq, List.length_cons] at hbody
        split at h
        · rename_i heq'
          simp only [Option.some.injEq, Prod.mk.injEq] at h
          simp only [heq', List.length_cons] at hrest
          simp only [List.length_cons, ← h.2]
          omega
        · simp at h
      · simp at h
  · simp at h

def stripChars : List Char → List Char
  | [] => []
  | c :: rest =>
      if c = '$' then
        match _h : placeholder? rest with
        | some (default, after) => default ++ stripChars after
        | none => c :: stripChars rest
      else c :: stripChars rest
termination_by cs => cs.length
decreasing_by
  · have := length_lt_of_placeholder? _h
    simp only [List.length_cons]
    omega
  all_goals simp

def stripPlaceholders (template : String) : String :=
  String.ofList (stripChars template.toList)

end QueryAssist.Catalog
