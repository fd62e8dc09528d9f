import QueryAssist.Proofs.Session.Writes
import Mathlib.Data.List.Induction
/-!
# The history of a session

Requests that come one after the other leave a history of entries written and keys cleared. Under a
key a session holds what was written there last, unless the key has been cleared since then. A
request that fails leaves nothing.
-/

namespace QueryAssist.Session

open Session.Action Workspace

/-! ## Effects -/

inductive Effect
  | stored (entry : Entry)
  | cleared (key : String)

namespace Effect

def key : Effect → String
  | stored entry => entry.workspace
  | cleared key => key

def on (snapshots : List (String × Stored)) : Effect → List (String × Stored)
  | stored entry => Keyed.put entry.workspace entry.stored snapshots
  | cleared key => Keyed.erase key snapshots

def left? : Effect → Option Stored
  | stored entry => some entry.stored
  | cleared _ => none

end Effect

def applying (s : Session) : Option Effect → Session
  | some effect => { s with snapshots := effect.on s.snapshots }
  | none => s

def Request.effect? (s : Session) (e : Editor) : Request → Option Effect
  | command .setFields params => (payloadEntry s e params).toOption.map .stored
  | command .loadFile params =>
      if (pathArgument params).isTruthy then (fileEntry s e params).toOption.map .stored else none
  | command .clearFields params => (s.addressedKey e params).toOption.map .cleared
  | configure settings => (s.configuredEntry? e settings).map .stored
  | command .getContext _ | openDocument _ | closeDocument _ => none

/-- The effects of requests, in their order, from a state on. -/
def history (s : Session) : List (Editor × Request) → List Effect
  | [] => []
  | (e, request) :: rest => (request.effect? s e).toList ++ history (s.after e request) rest

/-- The last effect on a key is the writing of this under it. -/
def IsLast (effects : List Effect) (key : String) (stored : Stored) : Prop :=
  ∃ earlier later, effects = earlier ++ .stored ⟨key, stored⟩ :: later ∧
    ∀ effect ∈ later, effect.key ≠ key

def Command.Stores (command : Command) : Prop :=
  command = setFields ∨ command = loadFile

/-- A request changes what is under the key of its effect and nothing else. A command that stores is
answered with what it has stored, and a failure, told in a reply or not, changes nothing at all. -/
structure Accounts (s : Session) (e : Editor) : Prop where
  elsewhere (request : Request) (key : String) :
    (∀ effect ∈ request.effect? s e, effect.key ≠ key) →
      (s.after e request).get? key = s.get? key
  stored (command : Command) (params : Json) : command.Stores →
    ∃ reply next, (command.perform e params).outcome s = (.ok reply, next) ∧
      (reply.isSuccess = true ↔
        ∃ entry, Request.effect? s e (.command command params) = some (.stored entry)) ∧
      ∀ entry, Request.effect? s e (.command command params) = some (.stored entry) →
        reply = entry.reply ∧ next.get? entry.workspace = some entry.stored
  refused (command : Command) (params : Json) (reply : Reply) (next : Session) :
    (command.perform e params).outcome s = (.ok reply, next) → reply.isSuccess = false → next = s
  failed (request : Request) (cause : Failure) (next : Session) :
    (request.perform e).outcome s = (.error cause, next) → next = s

variable {s : Session} {e : Editor}

/-! ## One request -/

theorem lookup_on (effect : Effect) (snapshots : List (String × Stored)) (key : String) :
    (effect.on snapshots).lookup key =
      if effect.key = key then effect.left? else snapshots.lookup key := by
  cases effect with
  | stored entry => exact Keyed.lookup_put snapshots
  | cleared key => exact Keyed.lookup_erase snapshots

theorem outcome_of_stores (s : Session) (e : Editor) {command : Command} (h : command.Stores)
    (params : Json) :
    (∃ entry, Request.effect? s e (.command command params) = some (.stored entry) ∧
      (command.perform e params).outcome s = (.ok entry.reply, s.write entry)) ∨
    ∃ why, Request.effect? s e (.command command params) = none ∧
      (command.perform e params).outcome s = (.ok (.refused why), s) := by
  rcases h with rfl | rfl
  · rw [Command.perform, Request.effect?, outcome_setFields]
    cases payloadEntry s e params with
    | error cause => exact .inr ⟨.failed cause, rfl, rfl⟩
    | ok entry => exact .inl ⟨entry, rfl, rfl⟩
  · rw [Command.perform, Request.effect?]
    cases hpath : (pathArgument params).isTruthy with
    | false => exact .inr ⟨.noPath, rfl, outcome_loadFile_of_no_path hpath⟩
    | true =>
        rw [if_pos rfl, outcome_loadFile_of_path hpath]
        cases fileEntry s e params with
        | error cause => exact .inr ⟨refuseLoad (pathArgument params) cause, rfl, rfl⟩
        | ok entry => exact .inl ⟨entry, rfl, rfl⟩

theorem after_command (name : Command) (params : Json) :
    s.after e (.command name params) = s.applying (Request.effect? s e (.command name params)) := by
  rw [after, Request.perform, outcome_map]
  by_cases hstores : name.Stores
  · rcases outcome_of_stores s e hstores params with ⟨entry, heffect, h⟩ | ⟨why, heffect, h⟩
    · rw [heffect, h]
      rfl
    · rw [heffect, h]
      rfl
  · cases name with
    | setFields => exact absurd (.inl rfl) hstores
    | loadFile => exact absurd (.inr rfl) hstores
    | clearFields =>
        rw [Command.perform, outcome_clearFields, Request.effect?]
        cases s.addressedKey e params <;> rfl
    | getContext => rfl

theorem after_configure (s : Session) (e : Editor) (settings : Json) :
    ∃ file, s.after e (.configure settings) =
      { s.applying (Request.effect? s e (.configure settings)) with
        completionEnabled := enabledBy settings
        mappingFile := file } := by
  rw [after, Request.perform, outcome_map, outcome_configure, Request.effect?]
  cases s.configuredEntry? e settings with
  | none => exact ⟨s.mappingFile, rfl⟩
  | some entry => exact ⟨s.configuredFile? settings, rfl⟩

theorem after_openDocument (uri : String) :
    s.after e (.openDocument uri) =
      match keyForUri e uri with
      | .ok key => s.track uri key
      | .error _ => s := by
  rw [after, Request.perform, outcome_map, outcome_didOpen]
  cases keyForUri e uri <;> rfl

theorem after_closeDocument (uri : String) :
    s.after e (.closeDocument uri) =
      match keyForUri e uri with
      | .ok key => s.untrack uri key
      | .error _ => s := by
  rw [after, Request.perform, outcome_map, outcome_didClose]
  cases keyForUri e uri <;> rfl

theorem snapshots_after (request : Request) :
    (s.after e request).snapshots = (s.applying (request.effect? s e)).snapshots := by
  cases request with
  | command name params => rw [after_command]
  | configure settings =>
      obtain ⟨file, hafter⟩ := after_configure s e settings
      rw [hafter]
  | openDocument uri =>
      rw [after_openDocument]
      cases keyForUri e uri <;> rfl
  | closeDocument uri =>
      rw [after_closeDocument]
      cases keyForUri e uri <;> rfl

theorem openDocuments_applying (s : Session) (effect? : Option Effect) :
    (s.applying effect?).openDocuments = s.openDocuments := by
  cases effect? <;> rfl

theorem openDocuments_after_command (name : Command) (params : Json) :
    (s.after e (.command name params)).openDocuments = s.openDocuments := by
  rw [after_command, openDocuments_applying]

theorem openDocuments_after_configure (settings : Json) :
    (s.after e (.configure settings)).openDocuments = s.openDocuments := by
  obtain ⟨file, hafter⟩ := after_configure s e settings
  rw [hafter, openDocuments_applying]

theorem get?_after (request : Request) (key : String) :
    (s.after e request).get? key =
      match request.effect? s e with
      | some effect => if effect.key = key then effect.left? else s.get? key
      | none => s.get? key := by
  rw [get?, snapshots_after]
  cases request.effect? s e with
  | none => rfl
  | some effect => exact lookup_on effect s.snapshots key

theorem eq_of_not_success {command : Command} {params : Json} {result : Except Failure Reply}
    {next : Session} (h : (command.perform e params).outcome s = (result, next))
    (hfails : ∀ reply, result = .ok reply → reply.isSuccess = false) : next = s := by
  by_cases hstores : command.Stores
  · rcases outcome_of_stores s e hstores params with ⟨entry, -, houtcome⟩ | ⟨why, -, houtcome⟩
    · rw [houtcome] at h
      cases h
      cases hfails entry.reply rfl
    · rw [houtcome] at h
      cases h
      rfl
  · cases command with
    | setFields => exact absurd (.inl rfl) hstores
    | loadFile => exact absurd (.inr rfl) hstores
    | clearFields =>
        rw [Command.perform, outcome_clearFields] at h
        cases hkey : s.addressedKey e params with
        | error cause => rw [hkey] at h; cases h; rfl
        | ok key => rw [hkey] at h; cases h; cases hfails _ rfl
    | getContext => cases h; rfl

theorem eq_of_failed {request : Request} {cause : Failure} {next : Session}
    (h : (request.perform e).outcome s = (.error cause, next)) : next = s := by
  cases request with
  | command name params =>
      rw [Request.perform, outcome_map_eq_error_iff] at h
      exact eq_of_not_success h (by rintro reply ⟨⟩)
  | configure settings =>
      rw [Request.perform, outcome_map_eq_error_iff, outcome_configure] at h
      cases h
  | openDocument uri =>
      rw [Request.perform, outcome_map_eq_error_iff, outcome_didOpen] at h
      cases hkey : keyForUri e uri with
      | error found => rw [hkey] at h; cases h; rfl
      | ok key => rw [hkey] at h; cases h
  | closeDocument uri =>
      rw [Request.perform, outcome_map_eq_error_iff, outcome_didClose] at h
      cases hkey : keyForUri e uri with
      | error found => rw [hkey] at h; cases h; rfl
      | ok key => rw [hkey] at h; cases h

theorem accounts (s : Session) (e : Editor) : s.Accounts e where
  elsewhere := by
    intro request key hkey
    rw [get?_after]
    cases heffect : request.effect? s e with
    | none => rfl
    | some effect => exact if_neg (hkey effect heffect)
  stored := by
    intro command params hstores
    rcases outcome_of_stores s e hstores params with ⟨entry, heffect, h⟩ | ⟨why, heffect, h⟩
    · refine ⟨entry.reply, s.write entry, h, iff_of_true rfl ⟨entry, heffect⟩, ?_⟩
      intro other hother
      rw [heffect] at hother
      cases hother
      exact ⟨rfl, (get?_put s entry.workspace entry.stored entry.workspace).trans (if_pos rfl)⟩
    · refine ⟨.refused why, s, h, iff_of_false Bool.false_ne_true (by simp [heffect]), ?_⟩
      intro other hother
      rw [heffect] at hother
      cases hother
  refused := by
    intro command params reply next h hrefused
    apply eq_of_not_success h
    rintro other ⟨⟩
    exact hrefused
  failed := by
    intro request cause next
    exact eq_of_failed

/-! ## A run -/

theorem run_concat (requests : List (Editor × Request)) (request : Editor × Request) :
    run (requests ++ [request]) = (run requests).after request.1 request.2 := by
  rw [run, List.foldl_append]
  rfl

theorem history_append (s : Session) (requests later : List (Editor × Request)) :
    s.history (requests ++ later) =
      s.history requests ++
        (requests.foldl (fun s request => s.after request.1 request.2) s).history later := by
  induction requests generalizing s with
  | nil => rfl
  | cons request requests ih =>
      simp only [List.cons_append, history, ih, List.append_assoc, List.foldl_cons]

theorem history_concat (requests : List (Editor × Request)) (request : Editor × Request) :
    initial.history (requests ++ [request]) =
      initial.history requests ++ (request.2.effect? (run requests) request.1).toList := by
  rw [history_append, history, history, List.append_nil]
  rfl

theorem isLast_nil (key : String) (stored : Stored) : ¬IsLast [] key stored := by
  rintro ⟨earlier, later, heq, -⟩
  simp at heq

theorem isLast_concat (effects : List Effect) (effect : Effect) (key : String) (stored : Stored) :
    IsLast (effects ++ [effect]) key stored ↔
      if effect.key = key then effect.left? = some stored else IsLast effects key stored := by
  constructor
  · rintro ⟨earlier, later, heq, hlater⟩
    -- The new effect is the writing itself, or the last of those that leave its key alone.
    rcases List.eq_nil_or_concat later with rfl | ⟨between, last, rfl⟩
    · obtain ⟨-, hlast⟩ := List.append_inj' heq rfl
      obtain rfl := List.singleton_inj.1 hlast
      exact (if_pos rfl).mpr rfl
    · rw [List.concat_eq_append, ← List.cons_append, ← List.append_assoc] at heq
      obtain ⟨rfl, hlast⟩ := List.append_inj' heq rfl
      obtain rfl := List.singleton_inj.1 hlast
      rw [if_neg (hlater effect (by simp))]
      exact ⟨earlier, between, rfl, fun other hmem => hlater other (by simp [hmem])⟩
  · intro h
    by_cases hkey : effect.key = key
    · rw [if_pos hkey] at h
      cases effect with
      | stored entry =>
          obtain rfl := Option.some.inj h
          subst hkey
          exact ⟨effects, [], rfl, by simp⟩
      | cleared key => cases h
    · rw [if_neg hkey] at h
      obtain ⟨earlier, later, rfl, hlater⟩ := h
      refine ⟨earlier, later ++ [effect], by simp, ?_⟩
      intro other hmem
      rcases List.mem_append.1 hmem with hmem | hmem
      · exact hlater other hmem
      · rwa [List.mem_singleton.1 hmem]

theorem get?_run_iff (requests : List (Editor × Request)) (key : String) (stored : Stored) :
    (run requests).get? key = some stored ↔ IsLast (initial.history requests) key stored := by
  -- From the end of the run, since the last effect on a key decides.
  induction requests using List.reverseRecOn with
  | nil => exact iff_of_false (by rintro ⟨⟩) (isLast_nil key stored)
  | append_singleton requests request ih =>
      rw [run_concat, history_concat, get?_after]
      cases request.2.effect? (run requests) request.1 with
      | none => simpa using ih
      | some effect =>
          rw [Option.toList_some, isLast_concat]
          dsimp only
          split
          · rfl
          · exact ih

/-- The store over a whole run. -/
theorem store_of_run (requests : List (Editor × Request)) :
    (∀ key stored, (run requests).get? key = some stored ↔
      IsLast (initial.history requests) key stored) ∧
    ∀ e, (run requests).Accounts e :=
  ⟨get?_run_iff requests, accounts (run requests)⟩

end QueryAssist.Session
