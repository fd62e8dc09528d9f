import QueryAssist.Proofs.Success
import QueryAssist.Session.Request
/-!
# What requests write

A request writes after everything in it that can fail. So it comes either to a failure, in the state
as it was, or to one entry that is stored, one key that is cleared, or one document more or less.
-/

namespace QueryAssist.Session

open Session.Action Workspace

variable {s : Session} {e : Editor} {params root : Json} {given uri : String}

/-! ## Fields from a payload -/

theorem outcome_storeFields :
    (storeFields e params).outcome s =
      match payloadEntry s e params with
      | .ok entry => (.ok entry.reply, s.write entry)
      | .error cause => (.error cause, s) := by
  simp only [storeFields, outcome_bind, outcome_get, outcome_lift]
  cases payloadEntry s e params <;> rfl

theorem outcome_setFields :
    (setFields e params).outcome s =
      match payloadEntry s e params with
      | .ok entry => (.ok entry.reply, s.write entry)
      | .error cause => (.ok (.refused (.failed cause)), s) := by
  rw [setFields, outcome_tryCatch, outcome_storeFields]
  cases payloadEntry s e params <;> rfl

/-! ## Fields from a file -/

theorem outcome_loadInto :
    (loadInto e given root).outcome s =
      match mappingEntry e given root with
      | .ok entry => (.ok entry.stored.data, s.write entry)
      | .error cause => (.error cause, s) := by
  simp only [loadInto, outcome_bind, outcome_lift]
  cases mappingEntry e given root <;> rfl

theorem keyOf_of_mappingEntry {entry : Entry} (h : mappingEntry e given root = .ok entry) :
    keyOf root = .ok entry.workspace := by
  simp only [mappingEntry, bind_eq_ok_iff] at h
  obtain ⟨_, -, path, -, data, -, key, hkey, hentry⟩ := h
  cases hentry
  exact hkey

/-- The key that is taken for the reply is the one under which the fields are stored. -/
theorem outcome_loadFor :
    (loadFor e given root).outcome s =
      match mappingEntry e given root with
      | .ok entry => (.ok entry.reply, s.write entry)
      | .error cause => (.error cause, s) := by
  rw [loadFor, outcome_bind, outcome_loadInto]
  cases hentry : mappingEntry e given root with
  | error cause => rfl
  | ok entry =>
      simp only [outcome_bind, keyOf_of_mappingEntry hentry]
      rfl

def fileEntry (s : Session) (e : Editor) (params : Json) : Except Failure Entry := do
  let (given, root) ← fileArguments s e params
  mappingEntry e given root

theorem outcome_loadFields :
    (loadFields e params).outcome s =
      match fileEntry s e params with
      | .ok entry => (.ok entry.reply, s.write entry)
      | .error cause => (.error cause, s) := by
  simp only [loadFields, fileEntry, outcome_bind, outcome_get, outcome_lift]
  cases fileArguments s e params with
  | error cause => rfl
  | ok arguments => exact outcome_loadFor

def pathArgument (params : Json) : Json :=
  (firstArgument params).member "path"

theorem outcome_loadFile_of_path (h : (pathArgument params).isTruthy = true) :
    (loadFile e params).outcome s =
      match fileEntry s e params with
      | .ok entry => (.ok entry.reply, s.write entry)
      | .error cause => (.ok (.refused (refuseLoad (pathArgument params) cause)), s) := by
  unfold pathArgument at h ⊢
  simp only [loadFile, if_pos h, outcome_tryCatch, outcome_loadFields]
  cases fileEntry s e params <;> rfl

theorem outcome_loadFile_of_no_path (h : (pathArgument params).isTruthy = false) :
    (loadFile e params).outcome s = (.ok (.refused .noPath), s) := by
  unfold pathArgument at h
  simp [loadFile, h]

/-! ## Cleared fields -/

theorem outcome_clearFields :
    (clearFields e params).outcome s =
      match s.addressedKey e params with
      | .ok key => (.ok (.cleared key (s.has key)), s.drop key)
      | .error cause => (.error cause, s) := by
  simp only [clearFields, outcome_bind, outcome_get, outcome_lift]
  cases s.addressedKey e params <;> rfl

/-! ## Settings -/

def configuredEntry? (s : Session) (e : Editor) (settings : Json) : Option Entry :=
  (s.configuredFile? settings).bind fun file =>
    (mappingEntry e file (optionalRoot e.folders.head?)).toOption

theorem outcome_configure (settings : Json) :
    (configure e settings).outcome s =
      (.ok (),
        match s.configuredEntry? e settings with
        | some entry =>
            { s.write entry with
              completionEnabled := enabledBy settings
              mappingFile := s.configuredFile? settings }
        | none => { s with completionEnabled := enabledBy settings }) := by
  have hfile : ({ s with completionEnabled := enabledBy settings } : Session).configuredFile?
      settings = s.configuredFile? settings := rfl
  rw [configure, outcome_tryCatch, applySettings, configuredEntry?]
  simp only [outcome_bind, outcome_modify, outcome_get, hfile]
  cases s.configuredFile? settings with
  | none => rfl
  | some file =>
      simp only [outcome_bind, outcome_lift, rootForUri_null, outcome_loadInto, Option.bind_some]
      cases mappingEntry e file (optionalRoot e.folders.head?) <;> rfl

/-! ## Open documents -/

theorem outcome_didOpen :
    (didOpen e uri).outcome s =
      match keyForUri e uri with
      | .ok key => (.ok (), s.track uri key)
      | .error cause => (.error cause, s) := by
  simp only [didOpen, outcome_bind, outcome_lift]
  cases keyForUri e uri <;> rfl

theorem outcome_didClose :
    (didClose e uri).outcome s =
      match keyForUri e uri with
      | .ok key => (.ok (), s.untrack uri key)
      | .error cause => (.error cause, s) := by
  simp only [didClose, outcome_bind, outcome_lift]
  cases keyForUri e uri <;> rfl

end QueryAssist.Session
