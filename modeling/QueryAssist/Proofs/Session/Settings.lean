import QueryAssist.Proofs.Session.History
/-!
# New settings

Settings switch completion, and may name a mapping file for the first folder. The file is taken over
as a whole: everything that can fail, from its path to its fields, comes before anything is written.
-/

namespace QueryAssist.Session

open Session.Action Workspace

variable {s : Session} {e : Editor}

/-! ## The section -/

/-- The members of the section for this server, if there is one, else those of the settings. What is
no object has no members. -/
def sectionMembers (settings : Json) : List (String × Json) :=
  match settings with
  | .obj members =>
      match members.lookup "esdsl" with
      | some (.obj inner) => inner
      | some _ => []
      | none => members
  | _ => []

theorem member_section? (settings : Json) (key : String) :
    (section? settings).member key = ((sectionMembers settings).lookup key).getD .null := by
  cases settings with
  | obj members =>
      rw [section?, sectionMembers]
      cases members.lookup "esdsl" with
      | none => rfl
      | some inner => cases inner <;> rfl
  | _ => rfl

/-- The section has an object for completion, and the member in it that enables it is falsy. -/
def SwitchesOff (settings : Json) : Prop :=
  ∃ completion enabled, (sectionMembers settings).lookup "completion" = some (.obj completion) ∧
    completion.lookup "enabled" = some enabled ∧ enabled.isTruthy = false

theorem enabledBy_eq_false_iff (settings : Json) :
    enabledBy settings = false ↔ SwitchesOff settings := by
  rw [enabledBy, member_section?, SwitchesOff]
  cases (sectionMembers settings).lookup "completion" with
  | none => simp
  | some completion =>
      cases completion with
      | obj members => cases hlookup : members.lookup "enabled" <;> simp [hlookup]
      | _ => simp

/-! ## The file -/

/-- The settings name a mapping file, and not the one that is configured already. -/
def Requests (s : Session) (settings : Json) (file : String) : Prop :=
  (sectionMembers settings).lookup "mappingFile" = some (.str file) ∧ file ≠ "" ∧
    s.mappingFile ≠ some file

theorem configuredFile?_eq_some_iff {settings : Json} {file : String} :
    s.configuredFile? settings = some file ↔ Requests s settings file := by
  rw [configuredFile?, member_section?, Requests]
  cases (sectionMembers settings).lookup "mappingFile" with
  | none => simp
  | some value =>
      cases value with
      | str given =>
          simp only [Option.getD_some, Bool.or_eq_true, String.isEmpty_iff, decide_eq_true_eq,
            Option.some.injEq, Json.str.injEq]
          by_cases hkept : given = "" ∨ s.mappingFile = some given
          · rw [if_pos hkept]
            refine iff_of_false (by rintro ⟨⟩) ?_
            rintro ⟨rfl, hne, hnew⟩
            exact hkept.elim hne hnew
          · rw [if_neg hkept, Option.some.injEq]
            refine iff_self_and.2 ?_
            rintro rfl
            exact not_or.1 hkept
      | _ => simp

/-- A file can be read, holds JSON text in UTF-8, and describes these fields. -/
def Holds (e : Editor) (path : Path) (data : Snapshot) : Prop :=
  '\x00' ∉ path.text.toList ∧ ∃ bytes cs mapping, e.files.read path = .ok bytes ∧
    Text.Utf8.decode bytes = .ok cs ∧ Json.parse e.maxNesting (unifyLineEnds cs) = .ok mapping ∧
    Snapshot.ofMapping mapping path.stem = .ok data

theorem loadMapping_eq_ok_iff {path : Path} {data : Snapshot} :
    loadMapping e.files e.maxNesting path = .ok data ↔ Holds e path data := by
  rw [loadMapping, Holds]
  by_cases hnull : '\x00' ∈ path.text.toList
  · rw [if_pos (List.contains_iff_mem.2 hnull)]
    exact iff_of_false (by rintro ⟨⟩) fun hholds => hholds.1 hnull
  · rw [if_neg (mt List.contains_iff_mem.1 hnull), and_iff_right hnull]
    simp only [bind_eq_ok_iff, mapError_eq_ok_iff, exists_and_left]

/-- The mapping file of this name lies at the path and holds these fields, and the first folder, if
there is one, has the key. -/
structure Loads (e : Editor) (file : String) (path : Path) (key : String) (data : Snapshot) :
    Prop where
  placed : (expandPath e file >>= placePath (optionalRoot e.folders.head?)) = .ok path
  holds : Holds e path data
  keyed : keyOf (optionalRoot e.folders.head?) = .ok key

theorem mappingEntry_eq_ok_iff {file : String} {entry : Entry} :
    mappingEntry e file (optionalRoot e.folders.head?) = .ok entry ↔
      ∃ path key data, Loads e file path key data ∧ entry = ⟨key, ⟨data, path.text⟩⟩ := by
  simp only [mappingEntry, bind_eq_ok_iff, mapError_eq_ok_iff, loadMapping_eq_ok_iff]
  constructor
  · rintro ⟨given, hgiven, path, hpath, data, hdata, key, hkey, hentry⟩
    cases hentry
    exact ⟨path, key, data, ⟨bind_eq_ok_iff.2 ⟨given, hgiven, hpath⟩, hdata, hkey⟩, rfl⟩
  · rintro ⟨path, key, data, hloads, rfl⟩
    obtain ⟨given, hgiven, hpath⟩ := bind_eq_ok_iff.1 hloads.placed
    exact ⟨given, hgiven, path, hpath, data, hloads.holds, key, hloads.keyed, rfl⟩

/-! ## Both together -/

theorem configuredEntry?_eq_some_iff {settings : Json} {entry : Entry} :
    s.configuredEntry? e settings = some entry ↔
      ∃ file path key data, Requests s settings file ∧ Loads e file path key data ∧
        entry = ⟨key, ⟨data, path.text⟩⟩ := by
  simp only [Option.bind_eq_some_iff, configuredEntry?, configuredFile?_eq_some_iff,
    toOption_eq_some_iff, mappingEntry_eq_ok_iff, exists_and_left]

/-- New settings take over the mapping file that they ask for, or, where there is none to load, leave
the mapping file and all snapshots as they were. -/
theorem configure_loads_or_keeps (s : Session) (e : Editor) (settings : Json) :
    ∃ next, ((Request.configure settings).perform e).outcome s = (.ok none, next) ∧
      (next.completionEnabled = false ↔ SwitchesOff settings) ∧
      next.openDocuments = s.openDocuments ∧
      (∀ file path key data, Requests s settings file → Loads e file path key data →
        next.mappingFile = some file ∧ next.get? key = some ⟨data, path.text⟩ ∧
          ∀ k, k ≠ key → next.get? k = s.get? k) ∧
      ((∀ file path key data, Requests s settings file → ¬Loads e file path key data) →
        next.mappingFile = s.mappingFile ∧ next.snapshots = s.snapshots) := by
  refine ⟨((configure e settings).outcome s).2, ?_, ?_⟩
  · rw [Request.perform, outcome_map, outcome_configure]
    rfl
  rw [outcome_configure]
  refine ⟨?_, ?_, ?_, ?_⟩
  · rw [← enabledBy_eq_false_iff]
    split <;> rfl
  · split <;> rfl
  · intro file path key data hrequests hloads
    rw [configuredEntry?_eq_some_iff.2 ⟨file, path, key, data, hrequests, hloads, rfl⟩]
    refine ⟨configuredFile?_eq_some_iff.2 hrequests, ?_, fun k hk => ?_⟩
    · exact (get?_put s key _ key).trans (if_pos rfl)
    · exact (get?_put s key _ k).trans (if_neg hk.symm)
  · intro hnone
    have hentry : s.configuredEntry? e settings = none := by
      rw [Option.eq_none_iff_forall_ne_some]
      intro entry hsome
      obtain ⟨file, path, key, data, hrequests, hloads, -⟩ :=
        configuredEntry?_eq_some_iff.1 hsome
      exact hnone file path key data hrequests hloads
    rw [hentry]
    exact ⟨rfl, rfl⟩

def logsText : List Char := [
  '\x7b', '"', 'p', 'r', 'o', 'p', 'e', 'r', 't', 'i', 'e', 's', '"', ':', ' ', '\x7b', '"', 'a', 't',
  '"', ':', ' ', '\x7b', '"', 't', 'y', 'p', 'e', '"', ':', ' ', '"', 'd', 'a', 't', 'e', '"', '\x7d',
  '\x7d', '\x7d', '\r', '\n']

def logsEditor : Editor where
  folders := ["file:///work%20space"]
  document _ := .ok ""
  unit := .utf16
  files := .ofList ["home"] [("/maps/logs.json", .file (logsText.map Char.toUInt8))]
  home := "/home"
  maxNesting := 3

def logsSettings : Json :=
  .obj [("esdsl", .obj [("mappingFile", .str "/maps/logs.json")])]

def logsMapping : Json :=
  .obj [("properties", .obj [("at", .obj [("type", .str "date")])])]

def logsFields : Snapshot :=
  ⟨[("logs", [⟨"at", .ofJson (.str "date"), .null, false, []⟩])], [.str "logs"], []⟩

theorem loads_logs :
    Loads logsEditor "/maps/logs.json" (.ofString "/maps/logs.json") "/work space" logsFields where
  placed := rfl
  holds := by
    refine ⟨by decide, logsText.map Char.toUInt8, logsText, logsMapping, ?_, ?_, ?_, ?_⟩
    · rfl
    · decide +kernel
    · rfl
    · rfl
  keyed := by
    have hkey : Workspace.key (.str "file:///work%20space") = .ok "/work space" := by decide +kernel
    exact mapError_eq_ok_iff.2 hkey

theorem configure_loads_or_keeps_logs :
    Requests initial logsSettings "/maps/logs.json" ∧
      Loads logsEditor "/maps/logs.json" (.ofString "/maps/logs.json") "/work space" logsFields ∧
      ∃ next, ((Request.configure logsSettings).perform logsEditor).outcome initial =
          (.ok none, next) ∧
        next.mappingFile = some "/maps/logs.json" ∧
        next.get? "/work space" = some ⟨logsFields, "/maps/logs.json"⟩ := by
  have hrequests : Requests initial logsSettings "/maps/logs.json" := ⟨rfl, by decide, by decide⟩
  obtain ⟨next, houtcome, -, -, htaken, -⟩ :=
    configure_loads_or_keeps initial logsEditor logsSettings
  obtain ⟨hfile, hstored, -⟩ := htaken _ _ _ _ hrequests loads_logs
  exact ⟨hrequests, loads_logs, next, houtcome, hfile, hstored⟩

end QueryAssist.Session
