import QueryAssist.Proofs.Completion.Fields
/-!
# Paths of fields

Each field of a snapshot is offered under its path, and a text field also under the path of a keyword
field beside it. Of what comes under one path only the first in the walk over the fields is offered.
-/

namespace QueryAssist.Completion

/-! ## One offer for each label -/

theorem eraseDups_filter {α : Type} [BEq α] [LawfulBEq α] (p : α → Bool) :
    (xs : List α) → (xs.filter p).eraseDups = xs.eraseDups.filter p
  | [] => rfl
  | x :: xs => by
      -- `eraseDups` goes on with what differs from the first element, and so does the recursion.
      have hrest := eraseDups_filter p (xs.filter fun y => !y == x)
      by_cases hx : p x = true
      · rw [List.filter_cons_of_pos hx, List.eraseDups_cons, List.eraseDups_cons,
          List.filter_cons_of_pos hx, ← hrest, List.filter_filter, List.filter_filter]
        simp only [Bool.and_comm]
      · rw [List.filter_cons_of_neg hx, List.eraseDups_cons, List.filter_cons_of_neg hx, ← hrest,
          List.filter_filter]
        refine congrArg List.eraseDups (List.filter_congr fun y _ => ?_)
        by_cases hy : y = x
        · simp [hy, hx]
        · simp [hy]
termination_by xs => xs.length
decreasing_by exact Nat.lt_succ_of_le (List.length_filter_le _ _)

theorem map_label_firstByLabel (cs : List Candidate) :
    (firstByLabel cs).map (·.label) = (cs.map (·.label)).eraseDups := by
  induction cs with
  | nil => rfl
  | cons c cs ih =>
      have hkept : ((firstByLabel cs).filter (·.label ≠ c.label)).map (·.label) =
          ((firstByLabel cs).map (·.label)).filter fun label => !label == c.label := by
        rw [List.filter_map]
        refine congrArg (List.map Candidate.label) (List.filter_congr fun d _ => ?_)
        rw [Function.comp, decide_not, beq_eq_decide]
      rw [firstByLabel, List.map_cons, List.map_cons, List.eraseDups_cons, hkept, ih,
        eraseDups_filter]

theorem firstByLabel_eq_self {cs : List Candidate} (h : (cs.map (·.label)).Nodup) :
    firstByLabel cs = cs := by
  induction cs with
  | nil => rfl
  | cons c cs ih =>
      rw [List.map_cons, List.nodup_cons] at h
      rw [firstByLabel, ih h.2, List.filter_eq_self.2]
      intro d hd
      refine decide_eq_true fun hlabel => h.1 ?_
      rw [← hlabel]
      exact List.mem_map_of_mem hd

/-! ## Labels in order -/

/-- A field gives its path, and that of the keyword field beside it if it is a text field. -/
def labelsOf (entry : String × Field) : List String :=
  entry.1 :: if entry.2.type = .text then [entry.1 ++ ".keyword"] else []

def fieldLabels (s : Snapshot) : List String :=
  (s.walk.flatMap labelsOf).eraseDups

theorem map_label_ofField (entry : String × Field) :
    (ofField entry.1 entry.2).map (·.label) = labelsOf entry := by
  rw [ofField, labelsOf]
  split_ifs <;> rfl

theorem map_label_allFieldOffers (s : Snapshot) :
    (allFieldOffers s).map (·.label) = fieldLabels s := by
  rw [allFieldOffers, map_label_firstByLabel, fieldLabels, List.map_flatMap]
  simp only [map_label_ofField]

/-- For a word the fields with the word in their labels are offered, all of them, and without a word
the first thirty, in the order of the walk. -/
theorem map_label_fieldOffers (s : Snapshot) (word : String) :
    (fieldOffers (some s) word).map (·.label) =
      if word = "" then (fieldLabels s).take 30
      else (fieldLabels s).filter fun label =>
        (Text.lower word).toList <:+: (Text.lower label).toList := by
  by_cases hword : word = ""
  · rw [if_pos hword, hword, fieldOffers_empty, List.map_take]
    exact congrArg (List.take 30) (map_label_allFieldOffers s)
  · rw [if_neg hword, fieldOffers_eq_filter hword, ← map_label_allFieldOffers, List.filter_map]
    refine congrArg (List.map Candidate.label) (List.filter_congr fun c _ => ?_)
    rw [Bool.eq_iff_iff, Text.containsWord, Text.hasInfix_iff, Function.comp, decide_eq_true_iff,
      Text.lower, Text.lower, String.toList_ofList, String.toList_ofList]

/-! ## What a field is described by -/

def analyzerNote (f : Field) : Option String :=
  if f.analyzer.isTruthy then some ("Analyzer: " ++ f.analyzer.text) else none

def ownOffer (path : String) (f : Field) : Candidate :=
  fieldOffer path 85 f.type.name (analyzerNote f)

def siblingOffer (path : String) : Candidate :=
  fieldOffer path 84 "keyword" (some "Exact match (not analyzed)")

def HasSibling (entries : List (String × Field)) (path : String) : Prop :=
  ∃ entry ∈ entries, entry.2.type = .text ∧ entry.1 ++ ".keyword" = path

theorem ofField_eq (path : String) (f : Field) :
    ofField path f =
      ownOffer path f :: if f.type = .text then [siblingOffer (path ++ ".keyword")] else [] :=
  rfl

@[simp] theorem label_ownOffer (path : String) (f : Field) : (ownOffer path f).label = path := rfl

@[simp] theorem label_siblingOffer (path : String) : (siblingOffer path).label = path := rfl

theorem find?_ofField (entry : String × Field) (path : String) :
    (ofField entry.1 entry.2).find? (fun c => c.label = path) =
      if entry.1 = path then some (ownOffer path entry.2)
      else if entry.2.type = .text ∧ entry.1 ++ ".keyword" = path then some (siblingOffer path)
      else none := by
  rw [ofField_eq]
  by_cases hpath : entry.1 = path
  · simp [hpath]
  · by_cases htext : entry.2.type = .text
    · by_cases hsibling : entry.1 ++ ".keyword" = path
      · simp [hpath, htext, hsibling]
      · simp [hpath, htext, hsibling]
    · simp [hpath, htext]

instance (entries : List (String × Field)) (path : String) : Decidable (HasSibling entries path) :=
  inferInstanceAs (Decidable (∃ entry ∈ entries, _))

theorem hasSibling_cons {entry : String × Field} {entries : List (String × Field)} {path : String} :
    HasSibling (entry :: entries) path ↔
      (entry.2.type = .text ∧ entry.1 ++ ".keyword" = path) ∨ HasSibling entries path :=
  List.exists_mem_cons_iff _ _ _

theorem find?_flatMap_ofField {entries : List (String × Field)} {path : String}
    (h : path ∉ entries.map (·.1)) :
    (entries.flatMap fun entry => ofField entry.1 entry.2).find? (fun c => c.label = path) =
      if HasSibling entries path then some (siblingOffer path) else none := by
  induction entries with
  | nil => rfl
  | cons entry entries ih =>
      rw [List.map_cons, List.mem_cons, not_or] at h
      rw [List.flatMap_cons, List.find?_append, ih h.2, find?_ofField, if_neg (Ne.symm h.1)]
      by_cases hentry : entry.2.type = .text ∧ entry.1 ++ ".keyword" = path
      · rw [if_pos hentry, if_pos (hasSibling_cons.2 (.inl hentry))]
        rfl
      · rw [if_neg hentry, Option.none_or]
        simp only [hasSibling_cons, hentry, false_or]

/-- What is offered under the path of a field describes the first field of this path, unless a text
field that the walk comes to before has its keyword field there. -/
theorem offer_of_field_path {s : Snapshot} {word : String} {c : Candidate}
    (h : c ∈ fieldOffers (some s) word) (hpath : c.label ∈ s.walk.map (·.1)) :
    ∃ before f after, s.walk = before ++ (c.label, f) :: after ∧ c.label ∉ before.map (·.1) ∧
      c = if HasSibling before c.label then siblingOffer c.label else ownOffer c.label f := by
  obtain ⟨paths, others, hpaths, hfirst⟩ := List.eq_append_cons_of_mem hpath
  obtain ⟨before, rest, hwalk, rfl, hrest⟩ := List.map_eq_append_iff.1 hpaths
  obtain ⟨⟨path, f⟩, after, rfl, rfl, -⟩ := List.map_eq_cons_iff.1 hrest
  refine ⟨before, f, after, hwalk, hfirst, ?_⟩
  have hfound : (s.walk.flatMap fun entry => ofField entry.1 entry.2).find?
      (fun d => d.label = c.label) = some c :=
    mem_firstByLabel_iff.1 (mem_knownFields_of_mem_fieldOffers h)
  -- The offers up to the first field of this path decide; those behind it come too late.
  rw [hwalk, List.flatMap_append, List.flatMap_cons, List.find?_append, List.find?_append,
    find?_flatMap_ofField hfirst, find?_ofField, if_pos rfl] at hfound
  split_ifs at hfound ⊢ with hsibling
  · exact (Option.some.inj hfound).symm
  · exact (Option.some.inj hfound).symm

/-- A field of this path comes twice: below a field that is no text, then below one that is. -/
def titledTwice : Snapshot :=
  let keyword : Field := ⟨"keyword", .long, .str "none", false, []⟩
  ⟨[("drafts", [⟨"title", .object, .null, false, [keyword]⟩]),
    ("posts", [⟨"title", .text, .null, false, [⟨"keyword", .date, .null, false, []⟩]⟩])], [], []⟩

theorem offer_of_field_path_titledTwice :
    let c := fieldOffer "title.keyword" 85 "long" (some "Analyzer: none")
    c ∈ fieldOffers (some titledTwice) "Key" ∧ c.label ∈ titledTwice.walk.map (·.1) ∧
      ∃ before f after, titledTwice.walk = before ++ (c.label, f) :: after ∧
        c.label ∉ before.map (·.1) ∧
        c = if HasSibling before c.label then siblingOffer c.label else ownOffer c.label f := by
  intro c
  have h : c ∈ fieldOffers (some titledTwice) "Key" := by decide +kernel
  have hpath : c.label ∈ titledTwice.walk.map (·.1) := by decide
  exact ⟨h, hpath, offer_of_field_path h hpath⟩

def titleWithKeyword : Snapshot :=
  ⟨[("posts", [⟨"title", .text, .null, false, [⟨"keyword", .long, .null, false, []⟩]⟩])], [], []⟩

theorem field_hidden_by_sibling :
    ∃ c ∈ fieldOffers (some titleWithKeyword) "",
      ∃ f, titleWithKeyword.walk.find? (fun entry => entry.1 = c.label) = some (c.label, f) ∧
        c.detail ≠ some f.type.name ∧ c.info ≠ analyzerNote f ∧ c.boost ≠ 85 := by
  have h : siblingOffer "title.keyword" ∈ fieldOffers (some titleWithKeyword) "" := by decide +kernel
  refine ⟨_, h, ⟨"keyword", .long, .null, false, []⟩, rfl, ?_⟩
  decide

end QueryAssist.Completion
