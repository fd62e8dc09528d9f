import QueryAssist.Proofs.Grammar.Reading
/-!
# Open containers

Where each container of a JSON text begins and ends, and which of them are open at a cursor. The
pass finds just these, with the keys of those that are values of members.
-/

namespace QueryAssist.Grammar

open Cursor Cursor.Registers

/-- A container with the offsets of its opener and of what comes after its closer. The key is that
of the member whose value it is. -/
structure Container where
  opener : Opener
  key : Option String
  start : Nat
  stop : Nat
  deriving DecidableEq, Repr

def Container.isOpenAt (c : Container) (cursor : Nat) : Bool :=
  decide (c.start < cursor ∧ cursor < c.stop)

mutual

def Value.containers (key : Option String) (start : Nat) : Value → List Container
  | .scalar _ => []
  | .string _ => []
  | .empty opener gap => [⟨opener, key, start, start + (Value.empty opener gap).text.length⟩]
  | .group opener items =>
      ⟨opener, key, start, start + (Value.group opener items).text.length⟩ ::
        items.containers (start + 1)

def Item.containers {opener : Opener} (start : Nat) : Item opener → List Container
  | .of label lead value _ =>
      value.containers label.key (start + label.text.length + lead.text.length)

def Items.containers {opener : Opener} (start : Nat) : Items opener → List Container
  | .last item => item.containers start
  | .more item rest => item.containers start ++ rest.containers (start + item.text.length + 1)

end

def Document.containers (d : Document) : List Container :=
  d.value.containers none d.lead.text.length

def Document.openAt (d : Document) (cursor : Nat) : List Container :=
  d.containers.filter (·.isOpenAt cursor)

/-! ## Where containers lie -/

def Within (start stop : Nat) (cs : List Container) : Prop :=
  ∀ c ∈ cs, start ≤ c.start ∧ c.stop ≤ stop

theorem Within.not_open {start stop cursor : Nat} {cs : List Container} (h : Within start stop cs)
    (hcursor : cursor ≤ start ∨ stop ≤ cursor) : ∀ c ∈ cs, ¬ c.isOpenAt cursor = true := by
  intro c hc
  have hbounds := h c hc
  simp only [Container.isOpenAt, decide_eq_true_eq]
  omega

mutual

theorem within_value : ∀ (value : Value) (key : Option String) (start : Nat),
    Within start (start + value.text.length) (value.containers key start)
  | .scalar s, key, start => by simp [Within, Value.containers]
  | .string s, key, start => by simp [Within, Value.containers]
  | .empty opener gap, key, start => by simp [Within, Value.containers]
  | .group opener items, key, start => by
      have hitems := within_items items (start + 1)
      intro c hc
      rw [Value.containers, List.mem_cons] at hc
      rcases hc with rfl | hc
      · exact ⟨Nat.le_refl _, Nat.le_refl _⟩
      · have hbounds := hitems c hc
        simp only [Value.text, List.length_append, List.length_cons]
        omega

theorem within_item : ∀ {opener : Opener} (item : Item opener) (start : Nat),
    Within start (start + item.text.length) (item.containers start)
  | _, .of label lead value trail, start => by
      have hvalue := within_value value label.key (start + label.text.length + lead.text.length)
      intro c hc
      have hbounds := hvalue c hc
      simp only [Item.text, List.length_append]
      omega

theorem within_items : ∀ {opener : Opener} (items : Items opener) (start : Nat),
    Within start (start + items.text.length) (items.containers start)
  | _, .last item, start => by
      rw [Items.text]
      exact within_item item start
  | _, .more item rest, start => by
      have hitem := within_item item start
      have hrest := within_items rest (start + item.text.length + 1)
      intro c hc
      simp only [Items.text, List.length_append, List.length_cons]
      rw [Items.containers, List.mem_append] at hc
      rcases hc with hc | hc
      · have hbounds := hitem c hc
        omega
      · have hbounds := hrest c hc
        omega

end

/-! ## The pass over a text -/

/-- The registers know just the given containers that are open at their offset, on top of those that
others know. -/
structure OpenOver (r : Registers) (cs : List Container) (s : Registers) : Prop where
  path : s.path = ((cs.filter (·.isOpenAt s.offset)).filterMap (·.key)).reverse ++ r.path
  openers : s.frames.map (·.opener) =
    ((cs.filter (·.isOpenAt s.offset)).map (·.opener)).reverse ++ r.frames.map (·.opener)

variable {r s : Registers} {a b cs : List Container}

theorem openOver_of_not_open (h : r.SameContainers s)
    (hcs : ∀ c ∈ cs, ¬ c.isOpenAt s.offset = true) : OpenOver r cs s := by
  have hnil := List.filter_eq_nil_iff.2 hcs
  constructor
  · rw [hnil, h.path]
    rfl
  · rw [hnil, h.frames]
    rfl

theorem OpenOver.append_left (h : OpenOver r a s) (hb : ∀ c ∈ b, ¬ c.isOpenAt s.offset = true) :
    OpenOver r (a ++ b) s := by
  have hfilter : (a ++ b).filter (·.isOpenAt s.offset) = a.filter (·.isOpenAt s.offset) := by
    rw [List.filter_append, List.filter_eq_nil_iff.2 hb, List.append_nil]
  constructor
  · rw [hfilter, h.path]
  · rw [hfilter, h.openers]

theorem OpenOver.append_right (h : OpenOver r b s) (ha : ∀ c ∈ a, ¬ c.isOpenAt s.offset = true) :
    OpenOver r (a ++ b) s := by
  have hfilter : (a ++ b).filter (·.isOpenAt s.offset) = b.filter (·.isOpenAt s.offset) := by
    rw [List.filter_append, List.filter_eq_nil_iff.2 ha, List.nil_append]
  constructor
  · rw [hfilter, h.path]
  · rw [hfilter, h.openers]

theorem OpenOver.of_sameContainers {t : Registers} (hrt : r.SameContainers t)
    (h : OpenOver t cs s) : OpenOver r cs s := by
  constructor
  · rw [h.path, hrt.path]
  · rw [h.openers, hrt.frames]

theorem OpenOver.entered {own : Container} (h : OpenOver (r.step own.opener.char) cs s)
    (hr : ReadyForValue own.key r) (hown : own.isOpenAt s.offset = true) :
    OpenOver r (own :: cs) s := by
  have hstep := step_opener hr.string own.opener
  have hpath : (r.step own.opener.char).path = own.key.toList ++ r.path := by
    rw [hstep, ← hr.pending]
    rfl
  have hframes : (r.step own.opener.char).frames.map (·.opener) =
      own.opener :: r.frames.map (·.opener) := by
    rw [hstep]
    rfl
  constructor
  · rw [h.path, hpath, List.filter_cons_of_pos (by exact hown)]
    cases hkey : own.key <;> simp [hkey]
  · rw [h.openers, hframes, List.filter_cons_of_pos (by exact hown)]
    simp

theorem throughout_around {before inner after : List Char}
    (hbefore : Throughout r.SameContainers r before)
    (hcs : Within (r.readFrom before).offset ((r.readFrom before).offset + inner.length) cs)
    (hinner : Throughout (OpenOver (r.readFrom before) cs) (r.readFrom before) inner)
    (hafter : Throughout r.SameContainers ((r.readFrom before).readFrom inner) after) :
    Throughout (OpenOver r cs) r (before ++ inner ++ after) := by
  refine throughout_append (throughout_append ?_ ?_) ?_
  · refine hbefore.mono fun s _ hto hs => openOver_of_not_open hs (hcs.not_open (.inl ?_))
    rwa [offset_readFrom]
  · exact hinner.mono fun s _ _ hs => hs.of_sameContainers hbefore.atEnd
  · rw [readFrom_append]
    refine hafter.mono fun s hfrom _ hs => openOver_of_not_open hs (hcs.not_open (.inr ?_))
    rwa [offset_readFrom] at hfrom

theorem throughout_enclosed {key : Option String} {opener : Opener} {inner : List Char}
    (h : ReadyForValue key r) (hcs : Within (r.offset + 1) (r.offset + 1 + inner.length) cs)
    (hinner : Throughout (OpenOver (r.step opener.char) cs) (r.step opener.char) inner)
    (hend : r.SameContainers (r.readFrom (opener.char :: inner ++ [closer opener]))) :
    Throughout
      (OpenOver r (⟨opener, key, r.offset,
        r.offset + (opener.char :: inner ++ [closer opener]).length⟩ :: cs))
      r (opener.char :: inner ++ [closer opener]) := by
  have hlength : (opener.char :: inner ++ [closer opener]).length = inner.length + 2 := by simp
  have hoffset := offset_readFrom r (opener.char :: inner ++ [closer opener])
  rw [hlength] at hoffset ⊢
  have hout : ∀ cursor, cursor ≤ r.offset ∨ r.offset + (inner.length + 2) ≤ cursor →
      ∀ c ∈ (⟨opener, key, r.offset, r.offset + (inner.length + 2)⟩ : Container) :: cs,
        ¬ c.isOpenAt cursor = true := by
    intro cursor hcursor
    apply Within.not_open _ hcursor
    intro c hc
    rw [List.mem_cons] at hc
    rcases hc with rfl | hc
    · exact ⟨Nat.le_refl _, Nat.le_refl _⟩
    · have hbounds := hcs c hc
      omega
  have hinside : Throughout
      (OpenOver r (⟨opener, key, r.offset, r.offset + (inner.length + 2)⟩ :: cs))
      (r.step opener.char) inner := by
    refine hinner.mono fun s hfrom hto hs => hs.entered h ?_
    rw [offset_step] at hfrom hto
    simp only [Container.isOpenAt, decide_eq_true_eq]
    omega
  refine ⟨openOver_of_not_open (agrees_refl r).keeps.sameContainers (hout _ (.inl (Nat.le_refl _))),
    throughout_append hinside ⟨hinside.atEnd, ?_⟩⟩
  have hfinal : ((r.step opener.char).readFrom inner).step (closer opener) =
      r.readFrom (opener.char :: inner ++ [closer opener]) := by
    rw [readFrom_append, readFrom_cons]
    rfl
  change OpenOver r _ (((r.step opener.char).readFrom inner).step (closer opener))
  rw [hfinal]
  exact openOver_of_not_open hend (hout _ (.inr (by omega)))

mutual

theorem throughout_value : ∀ (value : Value) {key : Option String} {r : Registers},
    ReadyForValue key r →
      Throughout (OpenOver r (value.containers key r.offset)) r value.text
  | .scalar s, _, r, h => by
      refine (throughout_quiet h.string s.quiet).mono fun t _ _ ht => ?_
      exact openOver_of_not_open ht.keeps.sameContainers (by simp [Value.containers])
  | .string s, _, r, h => by
      refine (throughout_string s h.string).mono fun t _ _ ht => ?_
      exact openOver_of_not_open ht.sameContainers (by simp [Value.containers])
  | .empty opener gap, _, r, h => by
      have hopened := ReadyForItem.opened h opener
      refine throughout_enclosed h (by simp [Within]) ?_ (readFrom_value (.empty opener gap) h).2
      refine (throughout_quiet hopened.string gap.quiet).mono fun t _ _ ht => ?_
      exact openOver_of_not_open ht.keeps.sameContainers (by simp)
  | .group opener items, _, r, h => by
      have hitems := throughout_items items (ReadyForItem.opened h opener)
      exact throughout_enclosed h (within_items items (r.offset + 1)) hitems
        (readFrom_value (.group opener items) h).2

theorem throughout_item : ∀ {opener : Opener} (item : Item opener) {r : Registers},
    ReadyForItem opener r →
      Throughout (OpenOver r (item.containers r.offset)) r item.text
  | _, .of label lead value trail, r, h => by
      have hlabel := readFrom_label label h
      have hlead := throughout_quiet hlabel.1.string lead.quiet
      have hready := hlabel.1.afterSpacing lead
      have hvalue := readFrom_value value hready
      have htrail := throughout_quiet hvalue.1 trail.quiet
      have hbefore := throughout_append (throughout_label label h)
        (hlead.mono fun _ _ _ hs => hlabel.2.trans hs.keeps.sameContainers)
      have hsame := hbefore.atEnd
      rw [readFrom_append] at hsame
      have hoffset : r.offset + label.text.length + lead.text.length =
          (r.readFrom (label.text ++ lead.text)).offset := by
        rw [offset_readFrom, List.length_append, Nat.add_assoc]
      rw [Item.containers, Item.text, hoffset]
      refine throughout_around hbefore (within_value value label.key _) ?_ ?_
      · rw [readFrom_append]
        exact throughout_value value hready
      · rw [readFrom_append]
        exact htrail.mono fun _ _ _ hs =>
          hsame.trans (hvalue.2.trans hs.keeps.sameContainers)

theorem throughout_items : ∀ {opener : Opener} (items : Items opener) {r : Registers},
    ReadyForItem opener r →
      Throughout (OpenOver r (items.containers r.offset)) r items.text
  | _, .last item, r, h => by
      rw [Items.text]
      exact throughout_item item h
  | opener, .more item rest, r, h => by
      have hitem := throughout_item item h
      have hend := readFrom_item item h
      have hcomma := sameContainers_comma hend.1
      have hrest := throughout_items rest (ReadyForItem.afterComma hend.1 opener)
      have hinItem := within_item item r.offset
      have hinRest := within_items rest ((r.readFrom item.text).step ',').offset
      have hoffset : ((r.readFrom item.text).step ',').offset =
          r.offset + item.text.length + 1 := by
        rw [offset_step, offset_readFrom]
      rw [hoffset] at hrest hinRest
      rw [Items.containers, Items.text]
      refine throughout_append (hitem.mono fun s _ hto hs => hs.append_left ?_) ⟨?_, ?_⟩
      · exact hinRest.not_open (.inl (by omega))
      · refine hitem.atEnd.append_left (hinRest.not_open (.inl ?_))
        rw [offset_readFrom]
        omega
      · refine hrest.mono fun s hfrom _ hs => ?_
        refine (hs.of_sameContainers (hend.2.trans hcomma)).append_right ?_
        exact hinItem.not_open (.inr (by omega))

end

theorem throughout_document (d : Document) :
    Throughout (OpenOver initial d.containers) initial d.text ∧
      initial.SameContainers (initial.readFrom d.text) := by
  have hready := readyForValue_document d
  have hlead := throughout_quiet (r := initial) rfl d.lead.quiet
  have hvalue := readFrom_value d.value hready
  have htrail : Throughout initial.SameContainers
      ((initial.readFrom d.lead.text).readFrom d.value.text) d.trail.text := by
    refine (throughout_quiet hvalue.1 d.trail.quiet).mono fun _ _ _ hs => ?_
    exact hlead.atEnd.keeps.sameContainers.trans (hvalue.2.trans hs.keeps.sameContainers)
  have hoffset : (initial.readFrom d.lead.text).offset = d.lead.text.length := by
    rw [offset_readFrom]
    exact Nat.zero_add _
  constructor
  · rw [Document.text, Document.containers, ← hoffset]
    exact throughout_around (hlead.mono fun _ _ _ hs => hs.keeps.sameContainers)
      (within_value d.value none _) (throughout_value d.value hready) htrail
  · rw [Document.text, readFrom_append, readFrom_append]
    exact htrail.atEnd

/-! ## Nesting -/

/-- The second container begins after the first has ended or lies in it. -/
def Follows (c e : Container) : Prop :=
  c.stop ≤ e.start ∨ (c.start < e.start ∧ e.stop < c.stop)

mutual

theorem pairwise_value : ∀ (value : Value) (key : Option String) (start : Nat),
    (value.containers key start).Pairwise Follows
  | .scalar s, key, start => by simp [Value.containers]
  | .string s, key, start => by simp [Value.containers]
  | .empty opener gap, key, start => by simp [Value.containers]
  | .group opener items, key, start => by
      have hinner := within_items items (start + 1)
      refine List.Pairwise.cons (fun e he => .inr ?_) (pairwise_items items (start + 1))
      have hbounds := hinner e he
      simp only [Value.text, List.length_append, List.length_cons, List.length_nil]
      omega

theorem pairwise_item : ∀ {opener : Opener} (item : Item opener) (start : Nat),
    (item.containers start).Pairwise Follows
  | _, .of label lead value _, start =>
      pairwise_value value label.key (start + label.text.length + lead.text.length)

theorem pairwise_items : ∀ {opener : Opener} (items : Items opener) (start : Nat),
    (items.containers start).Pairwise Follows
  | _, .last item, start => pairwise_item item start
  | _, .more item rest, start => by
      have hitem := within_item item start
      have hrest := within_items rest (start + item.text.length + 1)
      rw [Items.containers, List.pairwise_append]
      refine ⟨pairwise_item item start, pairwise_items rest _, fun c hc e he => .inl ?_⟩
      have hc := hitem c hc
      have he := hrest e he
      omega

end

theorem pairwise_openAt (d : Document) (cursor : Nat) :
    (d.openAt cursor).Pairwise fun c e => c.start < e.start ∧ e.stop < c.stop := by
  have hall := pairwise_value d.value none d.lead.text.length
  refine ((List.Pairwise.filter _ hall).imp_of_mem ?_)
  intro c e hc he hce
  simp only [List.mem_filter, Container.isOpenAt, decide_eq_true_eq] at hc he
  rcases hce with hce | hce
  · omega
  · exact hce

/-! ## The place of a cursor -/

theorem openAt_of_length_le (d : Document) {cursor : Nat} (h : d.text.length ≤ cursor) :
    d.openAt cursor = [] := by
  have hwithin := within_value d.value none d.lead.text.length
  apply List.filter_eq_nil_iff.2
  apply hwithin.not_open
  right
  simp only [Document.text, List.length_append] at h
  omega

theorem openAt_min (d : Document) (cursor : Nat) :
    d.openAt (min cursor d.text.length) = d.openAt cursor := by
  by_cases h : cursor ≤ d.text.length
  · rw [Nat.min_eq_left h]
  · have hle : d.text.length ≤ cursor := by omega
    rw [Nat.min_eq_right hle, openAt_of_length_le d (Nat.le_refl _), openAt_of_length_le d hle]

/-- At every cursor of a JSON text the path has the keys of the open members, and the openers are
those of the open containers, the outermost first. After the text nothing is open. -/
theorem scan_document (d : Document) (cursor : Nat) :
    (scan d.source cursor).path = (d.openAt cursor).filterMap (·.key) ∧
      (scan d.source cursor).openers = (d.openAt cursor).map (·.opener) ∧
      ((d.openAt cursor).Pairwise fun c e => c.start < e.start ∧ e.stop < c.stop) ∧
      (scan d.source d.text.length).path = [] ∧
      (scan d.source d.text.length).openers = [] ∧
      (scan d.source d.text.length).arrayDepths = [] := by
  obtain ⟨hthrough, hend⟩ := throughout_document d
  have hrun := throughout_iff.1 hthrough cursor
  have hoffset : (initial.readFrom (d.text.take cursor)).offset = min cursor d.text.length := by
    rw [offset_readFrom, List.length_take]
    exact Nat.zero_add _
  have hfilter : d.containers.filter
      (·.isOpenAt (initial.readFrom (d.text.take cursor)).offset) = d.openAt cursor := by
    rw [hoffset]
    exact openAt_min d cursor
  have hpath := hrun.path
  have hopeners := hrun.openers
  rw [hfilter] at hpath hopeners
  refine ⟨?_, ?_, pairwise_openAt d cursor, ?_, ?_, ?_⟩
  · change (run (before d.source cursor)).path.reverse = _
    rw [before_source, run_eq_readFrom, hpath, List.reverse_append, List.reverse_reverse]
    rfl
  · change ((run (before d.source cursor)).frames.map (·.opener)).reverse = _
    rw [before_source, run_eq_readFrom, hopeners, List.reverse_append, List.reverse_reverse]
    rfl
  all_goals
    simp only [scan, place, before_source, List.take_length, run_eq_readFrom]
  · rw [hend.path]
    rfl
  · rw [hend.frames]
    rfl
  · rw [hend.arrayDepths]
    rfl

end QueryAssist.Grammar
