import QueryAssist.Proofs.Session.History
import QueryAssist.Proofs.Session.Routing
/-!
# Open documents

While the folders stay the same, a document is listed exactly as long as it is open, and only under
the key of its own workspace. So arguments without any address lead to a workspace with an open
document, as long as there is one with a key.
-/

namespace QueryAssist.Session

open Workspace

variable {s : Session} {e : Editor}

/-! ## What happens to a document -/

inductive Event
  | opened
  | closed
  deriving DecidableEq, Repr

def Request.event? (uri : String) : Request → Option Event
  | openDocument u => if u = uri then some .opened else none
  | closeDocument u => if u = uri then some .closed else none
  | command _ _ | configure _ => none

def lastEvent? (requests : List (Editor × Request)) (uri : String) : Option Event :=
  requests.reverse.findSome? fun request => request.2.event? uri

theorem lastEvent?_concat (requests : List (Editor × Request)) (request : Editor × Request)
    (uri : String) :
    lastEvent? (requests ++ [request]) uri =
      (request.2.event? uri).or (lastEvent? requests uri) := by
  rw [lastEvent?, List.reverse_append, List.findSome?_append, List.reverse_singleton,
    List.findSome?_singleton, lastEvent?]

/-! ## The lists of documents -/

theorem isOpenUnder_iff_mem_lookup (h : (s.openDocuments.map Prod.fst).Nodup)
    {key document : String} :
    IsOpenUnder s key document ↔ document ∈ (s.openDocuments.lookup key).getD [] := by
  simp only [IsOpenUnder, Keyed.mem_iff_lookup_eq_some h]
  cases s.openDocuments.lookup key <;> simp

theorem nodup_track (h : (s.openDocuments.map Prod.fst).Nodup) (uri key : String) :
    ((s.track uri key).openDocuments.map Prod.fst).Nodup :=
  Keyed.nodup_keys_put h

theorem nodup_untrack (h : (s.openDocuments.map Prod.fst).Nodup) (uri key : String) :
    ((s.untrack uri key).openDocuments.map Prod.fst).Nodup := by
  rw [untrack]
  cases s.openDocuments.lookup key with
  | none => exact h
  | some uris => exact Keyed.nodup_keys_put h

theorem isOpenUnder_track (h : (s.openDocuments.map Prod.fst).Nodup) (uri key k d : String) :
    IsOpenUnder (s.track uri key) k d ↔ (k = key ∧ d = uri) ∨ IsOpenUnder s k d := by
  rw [isOpenUnder_iff_mem_lookup (nodup_track h uri key), isOpenUnder_iff_mem_lookup h, track,
    Keyed.lookup_put]
  by_cases hk : key = k
  · subst hk
    rw [if_pos rfl, Option.getD_some]
    split
    · rename_i hlisted
      rw [List.contains_iff_mem] at hlisted
      exact ⟨.inr, fun hor => hor.elim (fun heq => heq.2 ▸ hlisted) id⟩
    · simp [or_comm]
  · rw [if_neg hk]
    exact ⟨.inr, fun hor => hor.elim (fun heq => absurd heq.1.symm hk) id⟩

theorem isOpenUnder_untrack (h : (s.openDocuments.map Prod.fst).Nodup) (uri key k d : String) :
    IsOpenUnder (s.untrack uri key) k d ↔ IsOpenUnder s k d ∧ ¬(k = key ∧ d = uri) := by
  rw [isOpenUnder_iff_mem_lookup (nodup_untrack h uri key), isOpenUnder_iff_mem_lookup h, untrack]
  by_cases hk : key = k
  · subst hk
    cases hlisted : s.openDocuments.lookup key with
    | none => simp [hlisted]
    | some uris => simp [Keyed.lookup_put]
  · have hother : ¬(k = key ∧ d = uri) := fun heq => hk heq.1.symm
    rw [and_iff_left hother]
    cases s.openDocuments.lookup key with
    | none => rfl
    | some uris => dsimp only; rw [Keyed.lookup_put, if_neg hk]

/-! ## A run -/

theorem exists_keyForUri (hkeys : ∀ folder ∈ e.folders, ∃ key, keyOf (.str folder) = .ok key)
    (uri : String) : ∃ key, keyForUri e uri = .ok key := by
  obtain ⟨root, hroot⟩ := rootForUri_str e.folders uri
  rw [keyForUri_eq hroot]
  cases root with
  | none => exact ⟨globalKey, rfl⟩
  | some folder => exact hkeys folder (mem_of_rootForUri hroot)

theorem keyForUri_congr {e' : Editor} (h : e.folders = e'.folders) (uri : String) :
    keyForUri e uri = keyForUri e' uri := by
  rw [keyForUri, keyForUri, h]

/-- The documents that are open according to their last events are listed under their keys, and no
key comes twice. -/
structure Tracks (s : Session) (e : Editor) (event? : String → Option Event) : Prop where
  nodup : (s.openDocuments.map Prod.fst).Nodup
  isOpenUnder_iff : ∀ key uri,
    IsOpenUnder s key uri ↔ event? uri = some .opened ∧ keyForUri e uri = .ok key

theorem tracks_initial (e : Editor) : Tracks initial e (lastEvent? []) where
  nodup := List.nodup_nil
  isOpenUnder_iff := by
    intro key uri
    refine iff_of_false ?_ (by rintro ⟨⟨⟩, -⟩)
    rintro ⟨uris, hentry, -⟩
    exact List.not_mem_nil hentry

theorem Tracks.congr {event? next? : String → Option Event} {next : Session}
    (h : Tracks s e event?) (hdocuments : next.openDocuments = s.openDocuments)
    (hevents : ∀ uri, next? uri = event? uri) : Tracks next e next? where
  nodup := hdocuments ▸ h.nodup
  isOpenUnder_iff := by
    intro key uri
    rw [hevents, ← h.isOpenUnder_iff, IsOpenUnder, hdocuments, IsOpenUnder]

theorem Tracks.track {event? : String → Option Event} {uri key : String} (h : Tracks s e event?)
    (hkey : keyForUri e uri = .ok key) :
    Tracks (s.track uri key) e fun d => (if uri = d then some .opened else none).or (event? d) where
  nodup := nodup_track h.nodup uri key
  isOpenUnder_iff := by
    intro k d
    rw [isOpenUnder_track h.nodup, h.isOpenUnder_iff]
    by_cases hd : uri = d
    · subst hd
      rw [hkey, if_pos rfl]
      constructor
      · rintro (⟨rfl, -⟩ | ⟨-, hk⟩)
        · exact ⟨rfl, rfl⟩
        · exact ⟨rfl, hk⟩
      · rintro ⟨-, hk⟩
        exact .inl ⟨(Except.ok.inj hk).symm, rfl⟩
    · rw [if_neg hd, Option.none_or]
      exact or_iff_right fun heq => hd heq.2.symm

theorem Tracks.untrack {event? : String → Option Event} {uri key : String} (h : Tracks s e event?)
    (hkey : keyForUri e uri = .ok key) :
    Tracks (s.untrack uri key) e fun d =>
      (if uri = d then some .closed else none).or (event? d) where
  nodup := nodup_untrack h.nodup uri key
  isOpenUnder_iff := by
    intro k d
    rw [isOpenUnder_untrack h.nodup, h.isOpenUnder_iff]
    by_cases hd : uri = d
    · -- It can have been listed under its own key only, from which it is gone.
      subst hd
      rw [hkey, if_pos rfl]
      refine iff_of_false ?_ (by rintro ⟨⟨⟩, -⟩)
      rintro ⟨⟨-, hk⟩, hother⟩
      exact hother ⟨(Except.ok.inj hk).symm, rfl⟩
    · rw [if_neg hd, Option.none_or]
      exact and_iff_left fun heq => hd heq.2.symm

theorem Tracks.after {requests : List (Editor × Request)} (h : Tracks s e (lastEvent? requests))
    (hkeys : ∀ folder ∈ e.folders, ∃ key, keyOf (.str folder) = .ok key)
    {request : Editor × Request} (hfolders : request.1.folders = e.folders) :
    Tracks (s.after request.1 request.2) e (lastEvent? (requests ++ [request])) := by
  obtain ⟨editor, request⟩ := request
  rw [funext (lastEvent?_concat requests (editor, request))]
  cases request with
  | command name params => exact h.congr (openDocuments_after_command name params) fun _ => rfl
  | configure settings => exact h.congr (openDocuments_after_configure settings) fun _ => rfl
  | openDocument uri =>
      obtain ⟨key, hkey⟩ := exists_keyForUri hkeys uri
      rw [after_openDocument, keyForUri_congr hfolders, hkey]
      exact h.track hkey
  | closeDocument uri =>
      obtain ⟨key, hkey⟩ := exists_keyForUri hkeys uri
      rw [after_closeDocument, keyForUri_congr hfolders, hkey]
      exact h.untrack hkey

theorem tracks_run (hkeys : ∀ folder ∈ e.folders, ∃ key, keyOf (.str folder) = .ok key)
    {requests : List (Editor × Request)}
    (hfolders : ∀ request ∈ requests, request.1.folders = e.folders) :
    Tracks (run requests) e (lastEvent? requests) := by
  induction requests using List.reverseRecOn with
  | nil => exact tracks_initial e
  | append_singleton requests request ih =>
      rw [run_concat]
      refine Tracks.after (ih fun other hother => hfolders other (List.mem_append_left _ hother))
        hkeys (hfolders request ?_)
      exact List.mem_append_right _ (List.mem_singleton_self request)

theorem resolveRoot_without_address {params : Json} (hroot : rootArgument? params = none)
    (huri : (uriArgument params).isTruthy = false) :
    (∃ key document, s.resolveRoot e params = .ok (.str key) ∧ key ≠ "" ∧
      IsOpenUnder s key document) ∨
    ((∀ key document, IsOpenUnder s key document → key = "") ∧
      s.resolveRoot e params = .ok (optionalRoot e.folders.head?)) := by
  cases hkey : s.firstOpenKey? with
  | some key =>
      obtain ⟨hne, document, hopen⟩ := isOpenUnder_of_firstOpenKey? hkey
      exact .inl ⟨key, document, resolveRoot_of_open hroot huri hkey, hne, hopen⟩
  | none =>
      exact .inr ⟨firstOpenKey?_eq_none_iff.1 hkey, resolveRoot_of_nothing hroot huri hkey⟩

/-- The documents that are listed are those whose last event was that they were opened, each under
the key of its workspace. Without an address a request goes to one of their workspaces, or to the
first folder if no key is left to go to. -/
theorem openDocuments_of_run
    (hkeys : ∀ folder ∈ e.folders, ∃ key, keyOf (.str folder) = .ok key)
    {requests : List (Editor × Request)}
    (hfolders : ∀ request ∈ requests, request.1.folders = e.folders) :
    (∀ uri, (∃ key, IsOpenUnder (run requests) key uri) ↔
      lastEvent? requests uri = some .opened) ∧
    (∀ key uri, IsOpenUnder (run requests) key uri → keyForUri e uri = .ok key) ∧
    ∀ params, rootArgument? params = none → (uriArgument params).isTruthy = false →
      (∃ key document, (run requests).resolveRoot e params = .ok (.str key) ∧ key ≠ "" ∧
        IsOpenUnder (run requests) key document) ∨
      ((∀ key document, IsOpenUnder (run requests) key document → key = "") ∧
        (run requests).resolveRoot e params = .ok (optionalRoot e.folders.head?)) := by
  have htracks := tracks_run hkeys hfolders
  refine ⟨fun uri => ?_, fun key uri hopen => ((htracks.isOpenUnder_iff key uri).1 hopen).2,
    fun params => resolveRoot_without_address⟩
  constructor
  · rintro ⟨key, hopen⟩
    exact ((htracks.isOpenUnder_iff key uri).1 hopen).1
  · intro hopened
    obtain ⟨key, hkey⟩ := exists_keyForUri hkeys uri
    exact ⟨key, (htracks.isOpenUnder_iff key uri).2 ⟨hopened, hkey⟩⟩

def reopenedRequests : List (Editor × Request) :=
  [(spacedFolders, .openDocument "file:///w%20x/a.json"),
    (spacedFolders, .openDocument "untitled:1"),
    (spacedFolders, .openDocument "file:///w%20x/a.json"),
    (spacedFolders, .closeDocument "untitled:1"),
    (spacedFolders, .closeDocument "file:///w/b.json")]

theorem keyOf_spacedFolders :
    ∀ folder ∈ spacedFolders.folders, ∃ key, keyOf (.str folder) = .ok key := by
  have hplain : Workspace.key (.str "file:///w") = .ok "/w" := by decide +kernel
  intro folder hfolder
  rcases List.mem_pair.1 hfolder with rfl | rfl
  · exact ⟨"/w", congrArg (Except.mapError Failure.uri) hplain⟩
  · exact ⟨"/w x", keyOf_spaced⟩

theorem openDocuments_of_run_reopened :
    (∀ folder ∈ spacedFolders.folders, ∃ key, keyOf (.str folder) = .ok key) ∧
      (∀ request ∈ reopenedRequests, request.1.folders = spacedFolders.folders) ∧
      (∃ key, IsOpenUnder (run reopenedRequests) key "file:///w%20x/a.json") ∧
      (¬∃ key, IsOpenUnder (run reopenedRequests) key "untitled:1") ∧
      ∃ key document, (run reopenedRequests).resolveRoot spacedFolders (.obj []) = .ok (.str key) ∧
        key ≠ "" ∧ IsOpenUnder (run reopenedRequests) key document := by
  have hfolders : ∀ request ∈ reopenedRequests, request.1.folders = spacedFolders.folders := by
    simp [reopenedRequests]
  obtain ⟨hopen, hown, hresolve⟩ := openDocuments_of_run keyOf_spacedFolders hfolders
  have hlisted := (hopen "file:///w%20x/a.json").2 (by decide)
  refine ⟨keyOf_spacedFolders, hfolders, hlisted, ?_, ?_⟩
  · intro hclosed
    exact absurd ((hopen "untitled:1").1 hclosed) (by decide)
  · refine (hresolve (.obj []) rfl rfl).resolve_right fun hnone => ?_
    obtain ⟨key, hkey⟩ := hlisted
    have hspaced := (hown key _ hkey).symm.trans (keyForUri_spaced rfl)
    rw [hnone.1 key _ hkey] at hspaced
    exact absurd (Except.ok.inj hspaced) (by decide)

end QueryAssist.Session
