import QueryAssist.Proofs.Session.Folders
import QueryAssist.Proofs.Session.Writes
import QueryAssist.Proofs.Workspace.Keys
/-!
# Where fields go and who reads them

Fields that a client sends go under the key of the root that its arguments address, and a document
reads those under the key of its folder. Where the arguments address the workspace of the document,
directly, by its folder, or as that of all open documents, both keys are the same.
-/

namespace QueryAssist.Session

open Session.Action Workspace

variable {s : Session} {e : Editor} {params : Json}

/-! ## The root that arguments address -/

def rootArgument? (params : Json) : Option Json :=
  (rootKeys.map (firstArgument params).member).find? Json.isTruthy

def uriArgument (params : Json) : Json :=
  (firstArgument params).member "uri"

theorem resolveRoot_of_root {root : Json} (h : rootArgument? params = some root) :
    s.resolveRoot e params = .ok root := by
  unfold rootArgument? at h
  simp only [resolveRoot, h]

theorem resolveRoot_of_uri (h : rootArgument? params = none)
    (huri : (uriArgument params).isTruthy = true) :
    s.resolveRoot e params = (rootForUri e.folders (uriArgument params)).map optionalRoot := by
  unfold rootArgument? at h
  unfold uriArgument at huri ⊢
  simp only [resolveRoot, h, if_pos huri]

theorem resolveRoot_of_open {key : String} (h : rootArgument? params = none)
    (huri : (uriArgument params).isTruthy = false) (hkey : s.firstOpenKey? = some key) :
    s.resolveRoot e params = .ok (.str key) := by
  unfold rootArgument? at h
  unfold uriArgument at huri
  simp [resolveRoot, h, huri, hkey]

theorem resolveRoot_of_nothing (h : rootArgument? params = none)
    (huri : (uriArgument params).isTruthy = false) (hkey : s.firstOpenKey? = none) :
    s.resolveRoot e params = .ok (optionalRoot e.folders.head?) := by
  unfold rootArgument? at h
  unfold uriArgument at huri
  simp [resolveRoot, h, huri, hkey, rootForUri_null, Except.map]

theorem keyOf_of_keyOf {root : Json} {key : String} (h : keyOf root = .ok key) :
    keyOf (.str key) = .ok key := by
  cases hkey : Workspace.key root with
  | error fault => rw [keyOf, hkey] at h; cases h
  | ok k =>
      rw [keyOf, hkey] at h
      cases h
      rw [keyOf, key_of_key hkey]
      rfl

/-! ## Documents and their workspaces -/

def IsOpenUnder (s : Session) (key document : String) : Prop :=
  ∃ uris, (key, uris) ∈ s.openDocuments ∧ document ∈ uris

theorem isOpenUnder_of_firstOpenKey? {key : String} (h : s.firstOpenKey? = some key) :
    key ≠ "" ∧ ∃ document, IsOpenUnder s key document := by
  obtain ⟨entry, hfound, rfl⟩ := Option.map_eq_some_iff.1 h
  have hholds := List.find?_some hfound
  simp only [Bool.and_eq_true, Bool.not_eq_eq_eq_not, Bool.not_true, String.isEmpty_eq_false_iff,
    List.isEmpty_eq_false_iff] at hholds
  obtain ⟨document, hdocument⟩ := List.exists_mem_of_ne_nil _ hholds.2
  exact ⟨hholds.1, document, entry.2, List.mem_of_find?_eq_some hfound, hdocument⟩

theorem firstOpenKey?_eq_none_iff :
    s.firstOpenKey? = none ↔ ∀ key document, IsOpenUnder s key document → key = "" := by
  constructor
  · rintro hnone key document ⟨uris, hentry, hdocument⟩
    have hskipped := List.find?_eq_none.1 (Option.map_eq_none_iff.1 hnone) (key, uris) hentry
    by_contra hkey
    exact hskipped (by simp [hkey, List.ne_nil_of_mem hdocument])
  · intro hall
    cases hkey : s.firstOpenKey? with
    | none => rfl
    | some key =>
        obtain ⟨hne, document, hopen⟩ := isOpenUnder_of_firstOpenKey? hkey
        exact absurd (hall key document hopen) hne

theorem firstOpenKey?_eq_some {key : String} (hkey : key ≠ "")
    (hopen : ∃ document, IsOpenUnder s key document)
    (hall : ∀ k document, IsOpenUnder s k document → k ≠ "" → k = key) :
    s.firstOpenKey? = some key := by
  cases hfirst : s.firstOpenKey? with
  | none =>
      obtain ⟨document, hdocument⟩ := hopen
      exact absurd (firstOpenKey?_eq_none_iff.1 hfirst key document hdocument) hkey
  | some k =>
      obtain ⟨hne, document, hdocument⟩ := isOpenUnder_of_firstOpenKey? hfirst
      rw [hall k document hdocument hne]

/-- The arguments of a command address the workspace of a document. -/
inductive Addresses (s : Session) (e : Editor) (params : Json) (document : String) : Prop
  | document : rootArgument? params = none → uriArgument params = .str document →
      Addresses s e params document
  | folder (root : String) : rootForUri e.folders (.str document) = .ok (some root) →
      rootArgument? params = some (.str root) → Addresses s e params document
  | openDocuments (key : String) : rootArgument? params = none →
      (uriArgument params).isTruthy = false → keyForUri e document = .ok key → key ≠ "" →
      (∃ d, IsOpenUnder s key d) → (∀ k d, IsOpenUnder s k d → k ≠ "" → k = key) →
      Addresses s e params document

theorem rootForUri_str (folders : List String) (document : String) :
    ∃ root, rootForUri folders (.str document) = .ok root :=
  ⟨_, rootForUri_text folders document⟩

theorem keyForUri_eq {document : String} {root : Option String}
    (h : rootForUri e.folders (.str document) = .ok root) :
    keyForUri e document = keyOf (optionalRoot root) := by
  rw [keyForUri, h]
  rfl

theorem keyOf_of_keyForUri {uri key : String} (h : keyForUri e uri = .ok key) :
    keyOf (.str key) = .ok key := by
  obtain ⟨root, hfolder⟩ := rootForUri_str e.folders uri
  rw [keyForUri_eq hfolder] at h
  exact keyOf_of_keyOf h

theorem addressedKey_eq {document : String} (hne : document ≠ "")
    (h : Addresses s e params document) : s.addressedKey e params = keyForUri e document := by
  rw [addressedKey]
  cases h with
  | document hroot huri =>
      have htruthy : (uriArgument params).isTruthy = true := by simp [huri, Json.isTruthy, hne]
      obtain ⟨root, hfolder⟩ := rootForUri_str e.folders document
      rw [resolveRoot_of_uri hroot htruthy, huri, hfolder, keyForUri_eq hfolder]
      rfl
  | folder root hfolder hroot =>
      rw [resolveRoot_of_root hroot, keyForUri_eq hfolder]
      rfl
  | openDocuments key hroot huri hkey hne hopen hall =>
      -- Here the key of the document is taken for a root and made a key once more.
      rw [resolveRoot_of_open hroot huri (firstOpenKey?_eq_some hne hopen hall), hkey]
      exact keyOf_of_keyForUri hkey

/-! ## Storing and reading -/

theorem outcome_setFields_of_ofPayload {data : Snapshot}
    (hdata : Snapshot.ofPayload (firstArgument params) = .ok data) :
    (setFields e params).outcome s =
      match s.addressedKey e params with
      | .ok key => (.ok (.stored key data.indices data.fieldCount),
          s.put key ⟨data, payloadSource⟩)
      | .error cause => (.ok (.refused (.failed cause)), s) := by
  rw [outcome_setFields, payloadEntry, hdata]
  cases s.addressedKey e params <;> rfl

theorem dataForUri_of_stored {document key : String} {stored : Stored}
    (hkey : keyForUri e document = .ok key) (hget : s.get? key = some stored) :
    s.dataForUri e document = .ok (some stored.data) := by
  rw [dataForUri, hkey]
  simp only [bind, Except.bind, hget]
  rfl

/-- A document reads the fields that were last sent to its workspace, and not the global ones. -/
theorem dataForUri_setFields {document : String} {data : Snapshot} {reply : Reply} {next : Session}
    (hne : document ≠ "") (haddresses : Addresses s e params document)
    (hdata : Snapshot.ofPayload (firstArgument params) = .ok data)
    (houtcome : (setFields e params).outcome s = (.ok reply, next))
    (hsuccess : reply.isSuccess = true) : next.dataForUri e document = .ok (some data) := by
  have hkeys := addressedKey_eq hne haddresses
  rw [outcome_setFields_of_ofPayload hdata] at houtcome
  cases hkey : s.addressedKey e params with
  | error cause =>
      rw [hkey] at houtcome
      cases houtcome
      cases hsuccess
  | ok key =>
      rw [hkey] at houtcome
      cases houtcome
      exact dataForUri_of_stored (hkeys.symm.trans hkey) ((get?_put s key _ key).trans (if_pos rfl))

def spacedFolders : Editor :=
  ⟨["file:///w", "file:///w%20x/"], fun _ => .error (.document ""), .utf16, ⟨[], []⟩, "/", 0⟩

def spacedOpen : Session :=
  ⟨[("", ⟨.empty, payloadSource⟩)], [("", ["untitled:1"]), ("/w x", ["file:///w%20x/a.json"])],
    true, none⟩

def titlePayload : Json :=
  .obj [("fields", .obj [("index", .arr [.obj [("name", .str "title")]])])]

def titleFields : Snapshot :=
  ⟨[("index", [⟨"title", .ofJson .null, .null, false, []⟩])], [.str "index"], []⟩

theorem keyOf_spaced : keyOf (.str "file:///w%20x/") = .ok "/w x" := by
  have hkey : Workspace.key (.str "file:///w%20x/") = .ok "/w x" := by decide +kernel
  exact congrArg (Except.mapError Failure.uri) hkey

theorem keyForUri_spaced {document : String}
    (h : rootForUri spacedFolders.folders (.str document) = .ok (some "file:///w%20x/")) :
    keyForUri spacedFolders document = .ok "/w x" :=
  (keyForUri_eq h).trans keyOf_spaced

theorem addresses_spacedOpen :
    Addresses spacedOpen spacedFolders titlePayload "file:///w%20x/b.json" := by
  refine .openDocuments "/w x" rfl rfl (keyForUri_spaced rfl) (by decide) ?_ ?_
  · exact ⟨_, _, List.mem_cons_of_mem _ List.mem_cons_self, List.mem_cons_self⟩
  · rintro k d ⟨uris, hentry, -⟩ hne
    simp only [spacedOpen, List.mem_cons, Prod.mk.injEq, List.not_mem_nil, or_false] at hentry
    rcases hentry with ⟨rfl, -⟩ | ⟨rfl, -⟩
    · exact absurd rfl hne
    · rfl

/-- Fields sent without any address go to the one workspace in which a document is open. -/
theorem dataForUri_setFields_openDocuments :
    Snapshot.ofPayload (firstArgument titlePayload) = .ok titleFields ∧
      ∃ reply next, (setFields spacedFolders titlePayload).outcome spacedOpen = (.ok reply, next) ∧
        reply.isSuccess = true ∧
        next.dataForUri spacedFolders "file:///w%20x/b.json" = .ok (some titleFields) := by
  have hdata : Snapshot.ofPayload (firstArgument titlePayload) = .ok titleFields := rfl
  obtain ⟨reply, next, houtcome, hsuccess⟩ : ∃ reply next,
      (setFields spacedFolders titlePayload).outcome spacedOpen = (.ok reply, next) ∧
        reply.isSuccess = true := ⟨_, _, rfl, rfl⟩
  exact ⟨hdata, reply, next, houtcome, hsuccess,
    dataForUri_setFields (by decide) addresses_spacedOpen hdata houtcome hsuccess⟩

end QueryAssist.Session
