import QueryAssist.Proofs.Session.Failures
/-!
# Keys that come back as roots

A key that is taken for a root is its own key. So a command that goes back to a workspace by its key
reaches what is stored there.
-/

namespace QueryAssist.Session

open Workspace

theorem addressedKey_of_openDocuments (requests : List (Editor × Request)) {k : String}
    (hk : k ∈ (run requests).openDocuments.map Prod.fst) {e : Editor} {params : Json}
    (h : (run requests).resolveRoot e params = .ok (.str k)) :
    (run requests).addressedKey e params = .ok k := by
  rw [addressedKey, h]
  exact hasOwnKeys_run requests k hk

/-- Keys are their own keys, which are exactly the canonical texts. A key of open documents that
comes back as a root addresses its own entry. -/
theorem canonical_keys :
    (∀ root k : String, key (.str root) = .ok k → key (.str k) = .ok k) ∧
      (∀ k : String, key (.str k) = .ok k ↔ IsCanonical k) ∧
      ∀ (requests : List (Editor × Request)) (k : String),
        k ∈ (run requests).openDocuments.map Prod.fst →
        ∀ (e : Editor) (params : Json), (run requests).resolveRoot e params = .ok (.str k) →
          (run requests).addressedKey e params = .ok k :=
  ⟨fun _ _ => key_of_key, key_eq_self_iff,
    fun requests _ hk _ _ => addressedKey_of_openDocuments requests hk⟩

def spacedRequests : List (Editor × Request) :=
  [(spacedFolders, .openDocument "file:///w%20x/a.json")]

theorem canonical_keys_escaped :
    key (.str "file://h//a/./%2Fb%2F") = .ok "//h/a/b" ∧ key (.str "//h/a/b") = .ok "//h/a/b" ∧
      "/w x" ∈ (run spacedRequests).openDocuments.map Prod.fst ∧
      (run spacedRequests).resolveRoot spacedFolders (.obj []) = .ok (.str "/w x") ∧
      (run spacedRequests).addressedKey spacedFolders (.obj []) = .ok "/w x" := by
  have hkey : key (.str "file://h//a/./%2Fb%2F") = .ok "//h/a/b" := by decide +kernel
  have hopen : (run spacedRequests).openDocuments = [("/w x", ["file:///w%20x/a.json"])] := by
    decide +kernel
  have hmem : "/w x" ∈ (run spacedRequests).openDocuments.map Prod.fst := by
    rw [hopen]
    exact List.mem_cons_self
  have hfirst : (run spacedRequests).firstOpenKey? = some "/w x" := by
    rw [firstOpenKey?, hopen]
    rfl
  have hresolve : (run spacedRequests).resolveRoot spacedFolders (.obj []) = .ok (.str "/w x") :=
    resolveRoot_of_open rfl rfl hfirst
  exact ⟨hkey, canonical_keys.1 _ _ hkey, hmem, hresolve,
    canonical_keys.2.2 spacedRequests "/w x" hmem spacedFolders (.obj []) hresolve⟩

end QueryAssist.Session
