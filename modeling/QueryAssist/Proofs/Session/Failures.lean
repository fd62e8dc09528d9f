import QueryAssist.Proofs.Session.History
import QueryAssist.Proofs.Session.Routing
/-!
# Requests that fail

Keys of open documents stand for themselves in every state that a session can reach. So the arguments
of a command have a key, unless they lead to a file URI with a malformed authority or give something
else than a text for the URI of a document. There the command that clears a workspace fails.
-/

namespace QueryAssist.Session

open Session.Action Workspace

variable {s : Session} {e : Editor} {params : Json}

/-! ## Roots without a key -/

def authorityOf (cs : List Char) : List Char :=
  (cs.filter fun c => !Uri.isDropped c).takeWhile fun c => !Uri.endsAuthority c

def IsFaulty (uri : String) (fault : UriFault) : Prop :=
  ∃ cs, uri.toList = Uri.fileScheme ++ cs ∧ Uri.authorityFault? (authorityOf cs) = some fault

theorem pathOf_eq_error_iff (cs : List Char) (fault : UriFault) :
    Uri.pathOf cs = .error fault ↔ Uri.authorityFault? (authorityOf cs) = some fault := by
  rw [Uri.pathOf, authorityOf]
  cases Uri.authorityFault? ((cs.filter fun c => !Uri.isDropped c).takeWhile fun c =>
    !Uri.endsAuthority c) <;> simp

theorem rootOfChars_eq_error_iff (uri : String) (fault : UriFault) :
    rootOfChars uri.toList = .error fault ↔ IsFaulty uri fault := by
  rw [rootOfChars, IsFaulty]
  by_cases hscheme : Uri.fileScheme <+: uri.toList
  · obtain ⟨cs, hcs⟩ := hscheme
    have hdrop : uri.toList.drop Uri.fileScheme.length = cs := by rw [← hcs, List.drop_left]
    rw [if_pos (List.isPrefixOf_iff_prefix.2 ⟨cs, hcs⟩), hdrop, ← hcs]
    simp only [List.append_cancel_left_eq, exists_eq_left', ← pathOf_eq_error_iff]
    cases Uri.pathOf cs <;> simp [Except.map]
  · rw [if_neg fun h => hscheme (List.isPrefixOf_iff_prefix.1 h)]
    refine iff_of_false (by simp) ?_
    rintro ⟨cs, hcs, -⟩
    exact hscheme ⟨cs, hcs.symm⟩

theorem not_isFaulty_empty (fault : UriFault) : ¬IsFaulty "" fault := by
  rintro ⟨cs, hcs, -⟩
  cases hcs

theorem keyOf_str_eq_error_iff (uri : String) (cause : Failure) :
    keyOf (.str uri) = .error cause ↔ ∃ fault, IsFaulty uri fault ∧ cause = .uri fault := by
  by_cases hempty : uri = ""
  · subst hempty
    refine iff_of_false (by rintro ⟨⟩) ?_
    rintro ⟨fault, hfault, -⟩
    exact not_isFaulty_empty fault hfault
  · rw [keyOf, key, root?_str hempty]
    simp only [← rootOfChars_eq_error_iff]
    cases rootOfChars uri.toList with
    | error found =>
        constructor
        · rintro ⟨⟩
          exact ⟨found, rfl, rfl⟩
        · rintro ⟨fault, ⟨⟩, rfl⟩
          rfl
    | ok path => exact iff_of_false (by rintro ⟨⟩) (by rintro ⟨fault, ⟨⟩, -⟩)

theorem exists_str_of_keyOf_eq_error {root : Json} {cause : Failure}
    (h : keyOf root = .error cause) : ∃ uri, root = .str uri := by
  cases root with
  | str uri => exact ⟨uri, rfl⟩
  | _ => cases h

/-! ## Arguments without a key -/

/-- The arguments of a command lead to no key. -/
inductive Unaddressable (s : Session) (e : Editor) (params : Json) : Failure → Prop
  | root (uri : String) (fault : UriFault) :
      rootArgument? params = some (.str uri) → IsFaulty uri fault →
      Unaddressable s e params (.uri fault)
  | notText :
      rootArgument? params = none → (uriArgument params).isTruthy = true →
      (∀ uri, uriArgument params ≠ .str uri) → e.folders ≠ [] →
      Unaddressable s e params (.uriNotText (uriArgument params))
  | folder (document uri : String) (fault : UriFault) :
      rootArgument? params = none → uriArgument params = .str document → document ≠ "" →
      rootForUri e.folders (.str document) = .ok (some uri) → IsFaulty uri fault →
      Unaddressable s e params (.uri fault)
  | firstFolder (uri : String) (fault : UriFault) :
      rootArgument? params = none → (uriArgument params).isTruthy = false →
      s.firstOpenKey? = none → e.folders.head? = some uri → IsFaulty uri fault →
      Unaddressable s e params (.uri fault)

theorem rootForUri_of_not_text {folders : List String} {given : Json} (hfolders : folders ≠ [])
    (htruthy : given.isTruthy = true) (hnot : ∀ uri, given ≠ .str uri) :
    rootForUri folders given = .error (.uriNotText given) := by
  cases folders with
  | nil => exact absurd rfl hfolders
  | cons first rest =>
      simp only [rootForUri, htruthy]
      cases given with
      | str uri => exact absurd rfl (hnot uri)
      | _ => rfl

/-- The keys under which documents are open stand for themselves as roots. -/
def HasOwnKeys (s : Session) : Prop :=
  ∀ key ∈ s.openDocuments.map Prod.fst, keyOf (.str key) = .ok key

theorem keyOf_firstOpenKey? {key : String} (h : HasOwnKeys s) (hkey : s.firstOpenKey? = some key) :
    keyOf (.str key) = .ok key := by
  obtain ⟨entry, hfound, rfl⟩ := Option.map_eq_some_iff.1 hkey
  exact h entry.1 (List.mem_map_of_mem (List.mem_of_find?_eq_some hfound))

theorem addressedKey_eq_error {cause : Failure} (h : Unaddressable s e params cause) :
    s.addressedKey e params = .error cause := by
  rw [addressedKey]
  cases h with
  | root uri fault hroot hfault =>
      rw [resolveRoot_of_root hroot]
      exact (keyOf_str_eq_error_iff uri _).2 ⟨fault, hfault, rfl⟩
  | notText hroot htruthy hnot hfolders =>
      rw [resolveRoot_of_uri hroot htruthy, rootForUri_of_not_text hfolders htruthy hnot]
      rfl
  | folder document uri fault hroot huri hne hfolder hfault =>
      have htruthy : (uriArgument params).isTruthy = true := by simp [huri, Json.isTruthy, hne]
      rw [resolveRoot_of_uri hroot htruthy, huri, hfolder]
      exact (keyOf_str_eq_error_iff uri _).2 ⟨fault, hfault, rfl⟩
  | firstFolder uri fault hroot huri hopen hfirst hfault =>
      rw [resolveRoot_of_nothing hroot huri hopen, hfirst]
      exact (keyOf_str_eq_error_iff uri _).2 ⟨fault, hfault, rfl⟩

theorem unaddressable_of_document {document : String} {cause : Failure}
    (hroot : rootArgument? params = none) (huri : uriArgument params = .str document)
    (htruthy : (uriArgument params).isTruthy = true)
    (h : (s.resolveRoot e params >>= keyOf) = .error cause) : Unaddressable s e params cause := by
  have hne : document ≠ "" := by
    rintro rfl
    rw [huri] at htruthy
    cases htruthy
  obtain ⟨folder, hfolder⟩ := rootForUri_str e.folders document
  rw [resolveRoot_of_uri hroot htruthy, huri, hfolder] at h
  cases folder with
  | none => cases h
  | some uri =>
      obtain ⟨fault, hfault, rfl⟩ := (keyOf_str_eq_error_iff uri cause).1 h
      exact .folder document uri fault hroot huri hne hfolder hfault

theorem unaddressable_of_eq_error {cause : Failure} (hown : HasOwnKeys s)
    (h : s.addressedKey e params = .error cause) : Unaddressable s e params cause := by
  rw [addressedKey] at h
  cases hroot : rootArgument? params with
  | some root =>
      rw [resolveRoot_of_root hroot] at h
      obtain ⟨uri, rfl⟩ := exists_str_of_keyOf_eq_error h
      obtain ⟨fault, hfault, rfl⟩ := (keyOf_str_eq_error_iff uri cause).1 h
      exact .root uri fault hroot hfault
  | none =>
      by_cases htruthy : (uriArgument params).isTruthy = true
      · by_cases htext : ∃ document, uriArgument params = .str document
        · obtain ⟨document, huri⟩ := htext
          exact unaddressable_of_document hroot huri htruthy h
        · have hnot : ∀ uri, uriArgument params ≠ .str uri := not_exists.1 htext
          have hfolders : e.folders ≠ [] := by
            intro hnil
            rw [resolveRoot_of_uri hroot htruthy, hnil] at h
            cases h
          rw [resolveRoot_of_uri hroot htruthy, rootForUri_of_not_text hfolders htruthy hnot] at h
          cases h
          exact .notText hroot htruthy hnot hfolders
      · have huri : (uriArgument params).isTruthy = false := by simpa using htruthy
        cases hopen : s.firstOpenKey? with
        | some key =>
            -- The key of an open document is no faulty root, as it stands for itself.
            rw [resolveRoot_of_open hroot huri hopen] at h
            have hkey := keyOf_firstOpenKey? hown hopen
            cases hkey.symm.trans h
        | none =>
            rw [resolveRoot_of_nothing hroot huri hopen] at h
            cases hfirst : e.folders.head? with
            | none => rw [hfirst] at h; cases h
            | some uri =>
                rw [hfirst] at h
                obtain ⟨fault, hfault, rfl⟩ := (keyOf_str_eq_error_iff uri cause).1 h
                exact .firstFolder uri fault hroot huri hopen hfirst hfault

/-! ## States that a session reaches -/

theorem HasOwnKeys.congr {next : Session} (h : HasOwnKeys s)
    (hdocuments : next.openDocuments = s.openDocuments) : HasOwnKeys next := by
  intro key hkey
  rw [hdocuments] at hkey
  exact h key hkey

theorem HasOwnKeys.track {key : String} (h : HasOwnKeys s) (hkey : keyOf (.str key) = .ok key)
    (uri : String) : HasOwnKeys (s.track uri key) := by
  intro k hk
  rcases (Keyed.mem_keys_put s.openDocuments).1 hk with rfl | hk
  · exact hkey
  · exact h k hk

theorem HasOwnKeys.untrack {key : String} (h : HasOwnKeys s) (hkey : keyOf (.str key) = .ok key)
    (uri : String) : HasOwnKeys (s.untrack uri key) := by
  intro k hk
  rw [Session.untrack] at hk
  split at hk
  · rcases (Keyed.mem_keys_put s.openDocuments).1 hk with rfl | hk
    · exact hkey
    · exact h k hk
  · exact h k hk

theorem HasOwnKeys.after (h : HasOwnKeys s) (request : Request) :
    HasOwnKeys (s.after e request) := by
  cases request with
  | command name params => exact h.congr (openDocuments_after_command name params)
  | configure settings => exact h.congr (openDocuments_after_configure settings)
  | openDocument uri =>
      rw [after_openDocument]
      cases hkey : keyForUri e uri with
      | error cause => exact h
      | ok key => exact h.track (keyOf_of_keyForUri hkey) uri
  | closeDocument uri =>
      rw [after_closeDocument]
      cases hkey : keyForUri e uri with
      | error cause => exact h
      | ok key => exact h.untrack (keyOf_of_keyForUri hkey) uri

theorem hasOwnKeys_run (requests : List (Editor × Request)) : HasOwnKeys (run requests) := by
  induction requests using List.reverseRecOn with
  | nil => exact fun key hkey => absurd hkey List.not_mem_nil
  | append_singleton requests request ih =>
      rw [run_concat]
      exact ih.after request.2

/-! ## Answers -/

theorem clearFields_eq_error_iff (hown : HasOwnKeys s) (cause : Failure) :
    ((clearFields e params).outcome s).1 = .error cause ↔ Unaddressable s e params cause := by
  rw [outcome_clearFields]
  constructor
  · intro h
    apply unaddressable_of_eq_error hown
    cases hkey : s.addressedKey e params with
    | error found => rw [hkey] at h; cases h; rfl
    | ok key => rw [hkey] at h; cases h
  · intro h
    rw [addressedKey_eq_error h]

theorem exists_reply (command : Command) (hclear : command ≠ .clearFields) :
    ∃ reply, ((command.perform e params).outcome s).1 = .ok reply := by
  by_cases hstores : command.Stores
  · rcases outcome_of_stores s e hstores params with ⟨entry, -, h⟩ | ⟨why, -, h⟩
    · exact ⟨entry.reply, by rw [h]⟩
    · exact ⟨.refused why, by rw [h]⟩
  · cases command with
    | setFields => exact absurd (.inl rfl) hstores
    | loadFile => exact absurd (.inr rfl) hstores
    | clearFields => exact absurd rfl hclear
    | getContext => exact ⟨getContext e params, rfl⟩

theorem lookup_success (reply : Reply) :
    ∃ members, reply.toJson = .obj members ∧
      members.lookup "success" = some (.bool reply.isSuccess) :=
  ⟨_, rfl, rfl⟩

/-- Commands reply with an object that says whether they succeeded. Only the one that clears a
workspace fails, and it does so exactly where the arguments lead to no key. -/
theorem answer_of_run (requests : List (Editor × Request)) (e : Editor) (command : Command)
    (params : Json) :
    (∀ cause, ((command.perform e params).outcome (run requests)).1 = .error cause ↔
      command = .clearFields ∧ Unaddressable (run requests) e params cause) ∧
    ∀ reply, ((command.perform e params).outcome (run requests)).1 = .ok reply →
      ∃ members, reply.toJson = .obj members ∧
        members.lookup "success" = some (.bool reply.isSuccess) := by
  refine ⟨?_, fun reply _ => lookup_success reply⟩
  intro cause
  by_cases hclear : command = .clearFields
  · subst hclear
    rw [Command.perform, clearFields_eq_error_iff (hasOwnKeys_run requests), and_iff_right rfl]
  · obtain ⟨reply, hreply⟩ := exists_reply (s := run requests) command hclear
    rw [hreply]
    exact iff_of_false (by rintro ⟨⟩) fun h => hclear h.1

/-- A root with an opening bracket that is never closed. -/
theorem clearFields_unclosed :
    ((Command.clearFields.perform spacedFolders
      (.obj [("workspaceRoot", .str "file://[")])).outcome (run [])).1 =
        .error (.uri .misplacedBrackets) := by
  rfl

end QueryAssist.Session
