import QueryAssist.Proofs.Field.Reencoding
import Mathlib.Data.List.Basic
/-!
# Definitions and their fields

The definitions in a mapping have addresses, whose order is that of a walk in which a definition comes
before those below it, and its properties before its multi-fields. The fields of a mapping, with all below
them, are one field for each definition that is an object, in this order, under the names that lead to
the definition.
-/

namespace QueryAssist

/-! ## Definitions in blocks -/

/-- What leads from a definition to a block of more of them. -/
inductive Branch
  | properties
  | multiFields

namespace Branch

def key : Branch → String
  | properties => "properties"
  | multiFields => "fields"

def rank : Branch → Nat
  | properties => 0
  | multiFields => 1

end Branch

/-- The members of a definition, its address, and the names that lead to it, with its own. An address has
positions in blocks and between them the ranks of branches. -/
structure Definition where
  address : List Nat
  names : List String
  members : List (String × Json)

namespace Definition

def below (position : Nat) (name : String) (branch : Branch) (d : Definition) : Definition :=
  ⟨position :: branch.rank :: d.address, name :: d.names, d.members⟩

/-- A block has a definition, in it or below one in it. Only objects are definitions and blocks. -/
inductive IsIn : List (String × Json) → Definition → Prop
  | here {block members : List (String × Json)} {position : Nat} {name : String} :
      block[position]? = some (name, .obj members) → IsIn block ⟨[position], [name], members⟩
  | deeper {block above inner : List (String × Json)} {position : Nat} {name : String}
      {branch : Branch} {d : Definition} :
      block[position]? = some (name, .obj above) → (Json.obj above).member branch.key = .obj inner →
      IsIn inner d → IsIn block (d.below position name branch)

def path (d : Definition) : String :=
  ".".intercalate d.names

/-- The type that a definition gives, in the form of a field's. Without one, what has properties is an
object. -/
def type (d : Definition) : FieldType :=
  let own := (Json.obj d.members).member "type"
  match own.isTruthy, (Json.obj d.members).member "properties" with
  | false, .obj (_ :: _) => .object
  | _, _ => .ofJson own

mutual

def ofBlock : Json → List Definition
  | .obj block => listFrom 0 block
  | _ => []

def listFrom (position : Nat) : List (String × Json) → List Definition
  | [] => []
  | (name, .obj members) :: rest =>
      ⟨[position], [name], members⟩ ::
        ((listUnder .properties members).map (below position name .properties) ++
          (listUnder .multiFields members).map (below position name .multiFields)) ++
        listFrom (position + 1) rest
  | _ :: rest => listFrom (position + 1) rest

def listUnder (branch : Branch) : List (String × Json) → List Definition
  | [] => []
  | (key, v) :: rest => if key = branch.key then ofBlock v else listUnder branch rest

end

def listAt (position : Nat) : String × Json → List Definition
  | (name, .obj members) =>
      ⟨[position], [name], members⟩ ::
        ((listUnder .properties members).map (below position name .properties) ++
          (listUnder .multiFields members).map (below position name .multiFields))
  | _ => []

theorem listFrom_cons (position : Nat) (m : String × Json) (rest : List (String × Json)) :
    listFrom position (m :: rest) = listAt position m ++ listFrom (position + 1) rest := by
  obtain ⟨name, v⟩ := m
  cases v <;> rfl

theorem listFrom_eq_flatMap (block : List (String × Json)) (position : Nat) :
    listFrom position block = (block.zipIdx position).flatMap fun m => listAt m.2 m.1 := by
  induction block generalizing position with
  | nil => rfl
  | cons m rest ih => rw [listFrom_cons, List.zipIdx_cons, List.flatMap_cons, ih]

theorem ofBlock_of_not_isObject {v : Json} (h : Snapshot.isObject v = false) : ofBlock v = [] := by
  cases v with
  | obj block => cases h
  | _ => rfl

theorem listUnder_eq (branch : Branch) (members : List (String × Json)) :
    listUnder branch members = ofBlock ((Json.obj members).member branch.key) := by
  rw [Json.member]
  induction members with
  | nil => rfl
  | cons m rest ih =>
      obtain ⟨key, v⟩ := m
      rw [listUnder, Keyed.lookup_cons, ih]
      split <;> rfl

end Definition

theorem lookup_of_member {members inner : List (String × Json)} {key : String}
    (h : (Json.obj members).member key = .obj inner) : members.lookup key = some (.obj inner) := by
  rw [Json.member] at h
  cases hlookup : members.lookup key with
  | none =>
      rw [hlookup] at h
      cases h
  | some v =>
      rw [hlookup] at h
      exact congrArg some h

/-- What holds of a block as soon as it holds of the blocks of its definitions holds of every block. -/
theorem block_induction {P : List (String × Json) → Prop}
    (step : ∀ block, (∀ name members key inner, (name, Json.obj members) ∈ block →
      (Json.obj members).member key = .obj inner → P inner) → P block)
    (block : List (String × Json)) : P block :=
  step block fun _ _ _ inner _ _ => block_induction step inner
termination_by sizeOf block
decreasing_by
  rename_i members key hmem hmember
  have hinner := List.sizeOf_lt_of_mem (Keyed.mem_of_lookup_eq_some (lookup_of_member hmember))
  have hmembers := List.sizeOf_lt_of_mem hmem
  simp only [Prod.mk.sizeOf_spec, Json.obj.sizeOf_spec] at hinner hmembers
  omega

namespace Definition

variable {block members : List (String × Json)} {position : Nat} {m : String × Json}
  {d : Definition}

/-! ## Every definition is listed -/

theorem mem_ofBlock {v : Json} : d ∈ ofBlock v ↔ ∃ block, v = .obj block ∧ d ∈ listFrom 0 block := by
  cases v <;> simp [ofBlock]

theorem mem_listUnder {branch : Branch} : d ∈ listUnder branch members ↔
    ∃ block, (Json.obj members).member branch.key = .obj block ∧ d ∈ listFrom 0 block := by
  rw [listUnder_eq, mem_ofBlock]

theorem mem_listAt : d ∈ listAt position m ↔
    ∃ name members, m = (name, .obj members) ∧
      (d = ⟨[position], [name], members⟩ ∨
        ∃ branch, ∃ e ∈ listUnder branch members, d = e.below position name branch) := by
  obtain ⟨name, v⟩ := m
  cases v with
  | obj members =>
      rw [listAt, List.mem_cons, List.mem_append, List.mem_map, List.mem_map]
      constructor
      · rintro (hd | ⟨e, he, rfl⟩ | ⟨e, he, rfl⟩)
        · exact ⟨name, members, rfl, .inl hd⟩
        · exact ⟨name, members, rfl, .inr ⟨.properties, e, he, rfl⟩⟩
        · exact ⟨name, members, rfl, .inr ⟨.multiFields, e, he, rfl⟩⟩
      · rintro ⟨_, _, ⟨⟩, hd | ⟨branch, e, he, rfl⟩⟩
        · exact .inl hd
        · cases branch with
          | properties => exact .inr (.inl ⟨e, he, rfl⟩)
          | multiFields => exact .inr (.inr ⟨e, he, rfl⟩)
  | _ => simp [listAt]

theorem mem_listFrom : d ∈ listFrom 0 block ↔
    ∃ position m, block[position]? = some m ∧ d ∈ listAt position m := by
  rw [listFrom_eq_flatMap, List.mem_flatMap]
  constructor
  · rintro ⟨⟨m, position⟩, hm, hd⟩
    exact ⟨position, m, List.mem_zipIdx_iff_getElem?.1 hm, hd⟩
  · rintro ⟨position, m, hm, hd⟩
    exact ⟨(m, position), List.mem_zipIdx_iff_getElem?.2 hm, hd⟩

theorem isIn_of_mem_listFrom : ∀ d ∈ listFrom 0 block, d.IsIn block := by
  induction block using block_induction with
  | step block ih =>
      intro d hd
      obtain ⟨position, m, hm, hd⟩ := mem_listFrom.1 hd
      obtain ⟨name, members, rfl, rfl | ⟨branch, e, he, rfl⟩⟩ := mem_listAt.1 hd
      · exact .here hm
      · obtain ⟨inner, hinner, he⟩ := mem_listUnder.1 he
        exact .deeper hm hinner
          (ih name members branch.key inner (List.mem_of_getElem? hm) hinner e he)

theorem mem_listFrom_of_isIn (h : d.IsIn block) : d ∈ listFrom 0 block := by
  induction h with
  | here hm => exact mem_listFrom.2 ⟨_, _, hm, mem_listAt.2 ⟨_, _, rfl, .inl rfl⟩⟩
  | deeper hm hinner _ ih =>
      have hunder := mem_listUnder.2 ⟨_, hinner, ih⟩
      exact mem_listFrom.2 ⟨_, _, hm, mem_listAt.2 ⟨_, _, rfl, .inr ⟨_, _, hunder, rfl⟩⟩⟩

/-! ## In the order of addresses -/

def Precedes (d e : Definition) : Prop :=
  d.address < e.address

instance (d e : Definition) : Decidable (d.Precedes e) :=
  inferInstanceAs (Decidable (d.address < e.address))

theorem precedes_of_position_lt {i j : Nat} {e : Definition} {front back : List Nat}
    (hd : d.address = i :: front) (he : e.address = j :: back) (h : i < j) : d.Precedes e := by
  rw [Precedes, hd, he]
  exact List.cons_lt_cons_iff.2 (.inl h)

theorem exists_address_of_mem_listAt (h : d ∈ listAt position m) :
    ∃ rest, d.address = position :: rest := by
  obtain ⟨name, members, -, rfl | ⟨branch, e, -, rfl⟩⟩ := mem_listAt.1 h
  · exact ⟨[], rfl⟩
  · exact ⟨_, rfl⟩

theorem pairwise_flatMap_zipIdx {α : Type} {f : α × Nat → List Definition} {l : List α}
    (hposition : ∀ a, ∀ d ∈ f a, ∃ rest, d.address = a.2 :: rest)
    (hsorted : ∀ a ∈ l, ∀ position, (f (a, position)).Pairwise Precedes) :
    (l.zipIdx.flatMap f).Pairwise Precedes := by
  have hpositions : l.zipIdx.Pairwise fun a b => a.2 < b.2 := by
    rw [← List.pairwise_map, List.zipIdx_map_snd]
    exact List.pairwise_lt_range'
  rw [List.pairwise_flatMap]
  refine ⟨fun a ha => hsorted a.1 (List.fst_mem_of_mem_zipIdx ha) a.2, hpositions.imp ?_⟩
  intro a b hlt d hd e he
  obtain ⟨front, hfront⟩ := hposition a d hd
  obtain ⟨back, hback⟩ := hposition b e he
  exact precedes_of_position_lt hfront hback hlt

theorem pairwise_map_below {branch : Branch} {name : String} {definitions : List Definition}
    (h : definitions.Pairwise Precedes) :
    (definitions.map (below position name branch)).Pairwise Precedes := by
  rw [List.pairwise_map]
  refine h.imp fun hlt => ?_
  exact List.cons_lt_cons_iff.2 (.inr ⟨rfl, List.cons_lt_cons_iff.2 (.inr ⟨rfl, hlt⟩)⟩)

theorem pairwise_listAt {name : String}
    (h : ∀ branch, (listUnder branch members).Pairwise Precedes) :
    (listAt position (name, .obj members)).Pairwise Precedes := by
  rw [listAt, List.pairwise_cons, List.pairwise_append]
  refine ⟨fun d hd => ?_, pairwise_map_below (h _), pairwise_map_below (h _), fun d hd e he => ?_⟩
  · -- The definition itself comes before all below it, which have longer addresses.
    have hbelow : ∃ rank rest, d.address = position :: rank :: rest := by
      rcases List.mem_append.1 hd with hd | hd
      all_goals
        obtain ⟨e, -, rfl⟩ := List.mem_map.1 hd
        exact ⟨_, _, rfl⟩
    obtain ⟨rank, rest, haddress⟩ := hbelow
    rw [Precedes, haddress]
    exact List.cons_lt_cons_iff.2 (.inr ⟨rfl, List.nil_lt_cons rank rest⟩)
  · obtain ⟨d, -, rfl⟩ := List.mem_map.1 hd
    obtain ⟨e, -, rfl⟩ := List.mem_map.1 he
    exact List.cons_lt_cons_iff.2 (.inr ⟨rfl, List.cons_lt_cons_iff.2 (.inl Nat.zero_lt_one)⟩)

theorem pairwise_ofBlock {v : Json}
    (h : ∀ inner, v = .obj inner → (listFrom 0 inner).Pairwise Precedes) :
    (ofBlock v).Pairwise Precedes := by
  cases v with
  | obj inner => exact h inner rfl
  | _ => exact .nil

theorem pairwise_listFrom (block : List (String × Json)) : (listFrom 0 block).Pairwise Precedes := by
  induction block using block_induction with
  | step block ih =>
      rw [listFrom_eq_flatMap]
      refine pairwise_flatMap_zipIdx (fun m d => exists_address_of_mem_listAt) fun m hm position => ?_
      obtain ⟨name, v⟩ := m
      cases v with
      | obj members =>
          refine pairwise_listAt fun branch => ?_
          rw [listUnder_eq]
          exact pairwise_ofBlock fun inner => ih name members branch.key inner hm
      | _ => exact .nil

/-! ## Mappings -/

/-- In a mapping the position of the index comes before the address in its block. -/
def inIndex (position : Nat) (d : Definition) : Definition :=
  { d with address := position :: d.address }

inductive IsOf (mapping : Json) (index : String) : Definition → Prop
  | intro {members block : List (String × Json)} {position : Nat} {own : String × Json}
      {d : Definition} :
      mapping = .obj members → (Snapshot.definitionsOf members index)[position]? = some own →
      Snapshot.propertiesOf own.2 = .obj block → d.IsIn block → IsOf mapping index (d.inIndex position)

def listIndex (own : (String × Json) × Nat) : List Definition :=
  (ofBlock (Snapshot.propertiesOf own.1.2)).map (inIndex own.2)

def ofMapping (mapping : Json) (index : String) : List Definition :=
  match mapping with
  | .obj members => (Snapshot.definitionsOf members index).zipIdx.flatMap listIndex
  | _ => []

theorem mem_ofMapping {mapping : Json} {index : String} :
    d ∈ ofMapping mapping index ↔ d.IsOf mapping index := by
  constructor
  · intro h
    cases mapping with
    | obj members =>
        obtain ⟨⟨own, position⟩, hown, hd⟩ := List.mem_flatMap.1 h
        obtain ⟨e, he, rfl⟩ := List.mem_map.1 hd
        obtain ⟨block, hblock, he⟩ := mem_ofBlock.1 he
        exact .intro rfl (List.mem_zipIdx_iff_getElem?.1 hown) hblock (isIn_of_mem_listFrom e he)
    | _ => cases h
  · rintro (@⟨members, block, position, own, e, rfl, hown, hblock, he⟩)
    have hmem : (own, position) ∈ (Snapshot.definitionsOf members index).zipIdx :=
      List.mem_zipIdx_iff_getElem?.2 hown
    have hlisted := mem_ofBlock.2 ⟨block, hblock, mem_listFrom_of_isIn he⟩
    exact List.mem_flatMap.2 ⟨_, hmem, List.mem_map_of_mem hlisted⟩

theorem pairwise_ofMapping (mapping : Json) (index : String) :
    (ofMapping mapping index).Pairwise Precedes := by
  cases mapping with
  | obj members =>
      refine pairwise_flatMap_zipIdx (fun own d hd => ?_) fun own _ position => ?_
      · obtain ⟨e, -, rfl⟩ := List.mem_map.1 hd
        exact ⟨e.address, rfl⟩
      · rw [listIndex, List.pairwise_map]
        exact (pairwise_ofBlock fun inner _ => pairwise_listFrom inner).imp fun hlt =>
          List.cons_lt_cons_iff.2 (.inr ⟨rfl, hlt⟩)
  | _ => exact .nil

end Definition

end QueryAssist
