import QueryAssist.Cursor.Scan
/-!
# Reading on

What the pass over a text does from any registers on, and what holds of the registers at every cut of
the characters that are read.
-/

namespace QueryAssist.Cursor

def isQuiet (c : Char) : Bool :=
  !(['"', '\x7b', '[', '\x7d', ']', ':', ','].contains c)

theorem isQuiet_of_marks {p : Char → Bool}
    (hmarks : ['"', '\x7b', '[', '\x7d', ']', ':', ','].any p = false) {c : Char}
    (h : p c = true) : isQuiet c = true := by
  rw [isQuiet, Bool.not_eq_true', ← Bool.not_eq_true, List.contains_iff_mem]
  intro hc
  exact List.any_eq_false.1 hmarks c hc h

namespace Registers

def readFrom (r : Registers) (cs : List Char) : Registers :=
  cs.foldl step r

/-- A property of the registers before the first of some characters, between any two of them, and
after the last. -/
def Throughout (P : Registers → Prop) (r : Registers) : List Char → Prop
  | [] => P r
  | c :: cs => P r ∧ Throughout P (r.step c) cs

/-- Registers that differ from others in the offset and the open string at most. -/
def Agrees (r s : Registers) : Prop :=
  s = { r with offset := s.offset, string := s.string }

def Keeps (r s : Registers) : Prop :=
  s = { r with offset := s.offset, string := s.string, pendingKey := s.pendingKey }

theorem run_eq_readFrom (cs : List Char) : run cs = initial.readFrom cs := rfl

@[simp] theorem readFrom_nil (r : Registers) : r.readFrom [] = r := rfl

@[simp] theorem readFrom_cons (r : Registers) (c : Char) (cs : List Char) :
    r.readFrom (c :: cs) = (r.step c).readFrom cs := rfl

theorem readFrom_append (r : Registers) (a b : List Char) :
    r.readFrom (a ++ b) = (r.readFrom a).readFrom b := by
  exact List.foldl_append

theorem run_append (a b : List Char) : run (a ++ b) = (run a).readFrom b := by
  rw [run_eq_readFrom, readFrom_append, ← run_eq_readFrom]

@[simp] theorem offset_step (r : Registers) (c : Char) :
    (r.step c).offset = r.offset + 1 := rfl

@[simp] theorem offset_readFrom (r : Registers) (cs : List Char) :
    (r.readFrom cs).offset = r.offset + cs.length := by
  induction cs generalizing r with
  | nil => rfl
  | cons c cs ih =>
      rw [readFrom_cons, ih, offset_step, List.length_cons]
      omega

theorem offset_run (cs : List Char) : (run cs).offset = cs.length := by
  exact (offset_readFrom initial cs).trans (Nat.zero_add _)

/-! ## Every cut -/

theorem throughout_iff {P : Registers → Prop} {r : Registers} {cs : List Char} :
    Throughout P r cs ↔ ∀ n, P (r.readFrom (cs.take n)) := by
  induction cs generalizing r with
  | nil => simp [Throughout]
  | cons c cs ih =>
      rw [Throughout, ih]
      constructor
      · rintro ⟨hr, hcs⟩ n
        cases n with
        | zero => exact hr
        | succ n => exact hcs n
      · intro h
        exact ⟨h 0, fun n => h (n + 1)⟩

theorem throughout_append {P : Registers → Prop} {r : Registers} {a b : List Char}
    (ha : Throughout P r a) (hb : Throughout P (r.readFrom a) b) :
    Throughout P r (a ++ b) := by
  induction a generalizing r with
  | nil => exact hb
  | cons c a ih => exact ⟨ha.1, ih ha.2 hb⟩

theorem Throughout.atEnd {P : Registers → Prop} {r : Registers} {cs : List Char}
    (h : Throughout P r cs) : P (r.readFrom cs) := by
  rw [throughout_iff] at h
  simpa using h cs.length

theorem Throughout.mono {P Q : Registers → Prop} {r : Registers} {cs : List Char}
    (h : Throughout P r cs)
    (hPQ : ∀ s, r.offset ≤ s.offset → s.offset ≤ r.offset + cs.length → P s → Q s) :
    Throughout Q r cs := by
  rw [throughout_iff] at h ⊢
  intro n
  apply hPQ _ _ _ (h n)
  · rw [offset_readFrom]
    omega
  · rw [offset_readFrom, List.length_take]
    omega

theorem throughout_of_offset {P : Registers → Prop} {r : Registers} {cs : List Char}
    (h : ∀ s : Registers, r.offset ≤ s.offset → s.offset ≤ r.offset + cs.length → P s) :
    Throughout P r cs := by
  rw [throughout_iff]
  intro n
  apply h
  · rw [offset_readFrom]
    omega
  · rw [offset_readFrom, List.length_take]
    omega

theorem throughout_and {P Q : Registers → Prop} {r : Registers} {cs : List Char}
    (hP : Throughout P r cs) (hQ : Throughout Q r cs) : Throughout (fun s => P s ∧ Q s) r cs := by
  rw [throughout_iff] at *
  exact fun n => ⟨hP n, hQ n⟩

theorem throughout_append_of_before {P : Registers → Prop} {r : Registers} {a b : List Char}
    (ha : ∀ s : Registers, s.offset < r.offset + a.length → P s)
    (hb : Throughout P (r.readFrom a) b) : Throughout P r (a ++ b) := by
  induction a generalizing r with
  | nil => exact hb
  | cons c a ih =>
      rw [List.length_cons] at ha
      refine ⟨ha r (by omega), ih (fun s hs => ha s ?_) hb⟩
      rw [offset_step] at hs
      omega

theorem throughout_append_of_after {P : Registers → Prop} {r : Registers} {a b : List Char}
    (ha : Throughout P r a) (hb : ∀ s : Registers, r.offset + a.length < s.offset → P s) :
    Throughout P r (a ++ b) := by
  refine throughout_append ha ?_
  cases b with
  | nil => exact ha.atEnd
  | cons c b =>
      refine ⟨ha.atEnd, throughout_of_offset fun s hs _ => hb s ?_⟩
      rw [offset_step, offset_readFrom] at hs
      omega

/-! ## Registers that agree -/

theorem agrees_refl (r : Registers) : r.Agrees r := rfl

theorem Agrees.trans {r s t : Registers} (hrs : r.Agrees s) (hst : s.Agrees t) : r.Agrees t := by
  unfold Agrees at *
  rw [hst, hrs]

theorem throughout_agrees_cons {r : Registers} {c : Char} {cs : List Char}
    (hc : r.Agrees (r.step c)) (hcs : Throughout (r.step c).Agrees (r.step c) cs) :
    Throughout r.Agrees r (c :: cs) :=
  ⟨agrees_refl r, hcs.mono fun _ _ _ hs => hc.trans hs⟩

theorem throughout_agrees_append {r : Registers} {a b : List Char} (ha : Throughout r.Agrees r a)
    (hb : Throughout (r.readFrom a).Agrees (r.readFrom a) b) : Throughout r.Agrees r (a ++ b) :=
  throughout_append ha (hb.mono fun _ _ _ hs => ha.atEnd.trans hs)

structure SameContainers (r s : Registers) : Prop where
  path : s.path = r.path
  frames : s.frames = r.frames
  arrayDepths : s.arrayDepths = r.arrayDepths
  depth : s.depth = r.depth

theorem SameContainers.trans {r s t : Registers} (hrs : r.SameContainers s)
    (hst : s.SameContainers t) : r.SameContainers t :=
  ⟨hst.path.trans hrs.path, hst.frames.trans hrs.frames, hst.arrayDepths.trans hrs.arrayDepths,
    hst.depth.trans hrs.depth⟩

theorem Agrees.keeps {r s : Registers} (h : r.Agrees s) : r.Keeps s := by
  rw [h]
  rfl

theorem Keeps.trans {r s t : Registers} (hrs : r.Keeps s) (hst : s.Keeps t) : r.Keeps t := by
  unfold Keeps at *
  rw [hst, hrs]

theorem Keeps.sameContainers {r s : Registers} (h : r.Keeps s) : r.SameContainers s := by
  rw [h]
  exact ⟨rfl, rfl, rfl, rfl⟩

theorem throughout_keeps_append {r : Registers} {a b : List Char} (ha : Throughout r.Keeps r a)
    (hb : Throughout (r.readFrom a).Keeps (r.readFrom a) b) : Throughout r.Keeps r (a ++ b) :=
  throughout_append ha (hb.mono fun _ _ _ hs => ha.atEnd.trans hs)

/-! ## Outside a string -/

theorem step_outside {r : Registers} (h : r.string = none) (c : Char) :
    r.step c = { r.readOutside c with offset := r.offset + 1 } := by
  simp only [step, h]

theorem step_quiet {r : Registers} {c : Char} (h : r.string = none) (hc : isQuiet c = true) :
    r.step c = { r with offset := r.offset + 1 } := by
  rw [step_outside h]
  simp only [isQuiet, List.contains_eq_mem, List.mem_cons, List.not_mem_nil, or_false,
    Bool.not_eq_true', decide_eq_false_iff_not, not_or] at hc
  simp [readOutside, hc]

theorem readFrom_quiet {r : Registers} {cs : List Char} (h : r.string = none)
    (hcs : ∀ c ∈ cs, isQuiet c = true) :
    r.readFrom cs = { r with offset := r.offset + cs.length } := by
  induction cs generalizing r with
  | nil => rfl
  | cons c cs ih =>
      have hc := step_quiet h (hcs c List.mem_cons_self)
      have hstring : (r.step c).string = none := by rw [hc, h]
      rw [readFrom_cons, ih hstring fun d hd => hcs d (List.mem_cons_of_mem c hd), hc]
      simp only [List.length_cons, Nat.add_assoc, Nat.add_comm 1]

theorem throughout_quiet {r : Registers} {cs : List Char} (h : r.string = none)
    (hcs : ∀ c ∈ cs, isQuiet c = true) : Throughout r.Agrees r cs := by
  rw [throughout_iff]
  intro n
  rw [readFrom_quiet h fun c hc => hcs c (List.mem_of_mem_take hc)]
  rfl

end Registers

end QueryAssist.Cursor
