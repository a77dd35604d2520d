import Gateway.Config.Load
import Gateway.Proofs.Datum.Reader
import Gateway.Proofs.Json.Text

namespace Gateway.Config

def Endpoint.Rooted (e : Endpoint) : Prop :=
  ∃ rest, e.path = "/" ++ rest

structure Valid (c : Config) : Prop where
  version_eq : c.version = 3
  rooted : ∀ e ∈ c.endpoints, e.Rooted

inductive ReportsPaths : Nat → List Endpoint → List Defect → Prop where
  | nil {index : Nat} : ReportsPaths index [] []
  | rooted {index : Nat} {e : Endpoint} {es : List Endpoint} {ds : List Defect} :
      e.Rooted → ReportsPaths (index + 1) es ds → ReportsPaths index (e :: es) ds
  | empty {index : Nat} {e : Endpoint} {es : List Endpoint} {ds : List Defect} :
      e.path = "" → ReportsPaths (index + 1) es ds →
        ReportsPaths index (e :: es) (.emptyPath index :: ds)
  | relative {index : Nat} {e : Endpoint} {es : List Endpoint} {ds : List Defect} :
      e.path ≠ "" → ¬ e.Rooted → ReportsPaths (index + 1) es ds →
        ReportsPaths index (e :: es) (.relativePath e.path :: ds)

inductive Reports (c : Config) : List Defect → Prop where
  | supported {ds : List Defect} :
      c.version = 3 → ReportsPaths 0 c.endpoints ds → Reports c ds
  | unsupported {ds : List Defect} :
      c.version ≠ 3 → ReportsPaths 0 c.endpoints ds →
        Reports c (.unsupportedVersion c.version 3 :: ds)

theorem Endpoint.rooted_iff (e : Endpoint) : e.Rooted ↔ e.path.toList.head? = some '/' := by
  rw [List.head?_eq_some_iff]
  constructor
  · rintro ⟨rest, h⟩
    exact ⟨rest.toList, by rw [h, String.toList_append]; rfl⟩
  · rintro ⟨cs, h⟩
    exact ⟨String.ofList cs, String.toList_injective (by simp [h])⟩

theorem pathDefects_of_rooted {e : Endpoint} (h : e.Rooted) (index : Nat) :
    pathDefects index e.path = [] := by
  obtain ⟨cs, hcs⟩ := List.head?_eq_some_iff.mp (e.rooted_iff.mp h)
  rw [pathDefects, hcs]
  rfl

theorem pathDefects_of_empty {e : Endpoint} (h : e.path = "") (index : Nat) :
    pathDefects index e.path = [.emptyPath index] := by
  rw [pathDefects, h]
  rfl

theorem pathDefects_of_relative {e : Endpoint} (hne : e.path ≠ "") (h : ¬ e.Rooted)
    (index : Nat) : pathDefects index e.path = [.relativePath e.path] := by
  rw [ne_eq, ← String.toList_eq_nil_iff] at hne
  rw [e.rooted_iff] at h
  rw [pathDefects]
  cases hcs : e.path.toList with
  | nil => exact absurd hcs hne
  | cons c cs =>
      have hc : c ≠ '/' := fun hc => h (by rw [hcs, hc]; rfl)
      simp [hc]

def pathDefectsFrom (index : Nat) (es : List Endpoint) : List Defect :=
  (es.zipIdx index).flatMap fun (e, index) => pathDefects index e.path

theorem pathDefectsFrom_cons (index : Nat) (e : Endpoint) (es : List Endpoint) :
    pathDefectsFrom index (e :: es) =
      pathDefects index e.path ++ pathDefectsFrom (index + 1) es := by
  rw [pathDefectsFrom, List.zipIdx_cons, List.flatMap_cons]
  rfl

theorem reportsPaths_pathDefectsFrom (index : Nat) (es : List Endpoint) :
    ReportsPaths index es (pathDefectsFrom index es) := by
  induction es generalizing index with
  | nil => exact .nil
  | cons e es ih =>
      rw [pathDefectsFrom_cons]
      by_cases hrooted : e.Rooted
      · rw [pathDefects_of_rooted hrooted]
        exact .rooted hrooted (ih _)
      · by_cases hempty : e.path = ""
        · rw [pathDefects_of_empty hempty]
          exact .empty hempty (ih _)
        · rw [pathDefects_of_relative hempty hrooted]
          exact .relative hempty hrooted (ih _)

theorem reportsPaths_iff {index : Nat} {es : List Endpoint} {ds : List Defect} :
    ReportsPaths index es ds ↔ ds = pathDefectsFrom index es := by
  constructor
  · intro h
    induction h with
    | nil => rfl
    | rooted hrooted _ ih => rw [pathDefectsFrom_cons, pathDefects_of_rooted hrooted, ih]; rfl
    | empty hempty _ ih => rw [pathDefectsFrom_cons, pathDefects_of_empty hempty, ih]; rfl
    | relative hne hnot _ ih =>
        rw [pathDefectsFrom_cons, pathDefects_of_relative hne hnot, ih]
        rfl
  · rintro rfl
    exact reportsPaths_pathDefectsFrom index es

theorem defects_eq (c : Config) :
    c.defects = versionDefects c.version ++ pathDefectsFrom 0 c.endpoints :=
  rfl

theorem reports_iff {c : Config} {ds : List Defect} : c.Reports ds ↔ ds = c.defects := by
  rw [defects_eq, versionDefects, supportedVersion]
  constructor
  · rintro (⟨hversion, hpaths⟩ | ⟨hversion, hpaths⟩)
    · rw [if_pos hversion, reportsPaths_iff.mp hpaths]
      rfl
    · rw [if_neg hversion, reportsPaths_iff.mp hpaths]
      rfl
  · rintro rfl
    have hpaths := reportsPaths_pathDefectsFrom 0 c.endpoints
    split
    · next hversion => exact .supported hversion hpaths
    · next hversion => exact .unsupported hversion hpaths

theorem pathDefectsFrom_eq_nil_iff {index : Nat} {es : List Endpoint} :
    pathDefectsFrom index es = [] ↔ ∀ e ∈ es, e.Rooted := by
  induction es generalizing index with
  | nil => simp [pathDefectsFrom]
  | cons e es ih =>
      rw [pathDefectsFrom_cons, List.append_eq_nil_iff, ih, List.forall_mem_cons]
      refine and_congr_left fun _ => ⟨fun h => ?_, fun h => pathDefects_of_rooted h index⟩
      refine Classical.byContradiction fun hrooted => ?_
      by_cases hempty : e.path = ""
      · simp [pathDefects_of_empty hempty] at h
      · simp [pathDefects_of_relative hempty hrooted] at h

theorem defects_eq_nil_iff (c : Config) : c.defects = [] ↔ c.Valid := by
  have hversion : versionDefects c.version = [] ↔ c.version = 3 := by
    rw [versionDefects, supportedVersion]
    split <;> simp_all
  rw [defects_eq, List.append_eq_nil_iff, hversion, pathDefectsFrom_eq_nil_iff]
  exact ⟨fun h => ⟨h.1, h.2⟩, fun h => ⟨h.version_eq, h.rooted⟩⟩

theorem defects_withDefaults (c : Config) : c.withDefaults.defects = c.defects := by
  simp only [defects, withDefaults, List.zipIdx_map, List.flatMap_map]
  rfl

theorem loadJson_of_ofJson {text : Bytes} {c : Config} (h : ofJson text = .ok c) :
    loadJson text = c.accept := by
  rw [loadJson, h]
  rfl

theorem accept_of_valid {c : Config} (h : c.Valid) : c.accept = .ok c.withDefaults := by
  rw [accept, c.defects_eq_nil_iff.mpr h]

theorem accept_of_not_valid {c : Config} (h : ¬ c.Valid) :
    c.accept = .error (.invalid c.defects) := by
  rw [← defects_eq_nil_iff] at h
  rw [accept]
  split
  · contradiction
  · rfl

theorem loadJson_exact {text : Bytes} {c : Config} (h : ofJson text = .ok c) :
    ((∃ d, loadJson text = .ok d) ↔ c.Valid) ∧
      (c.Valid → loadJson text = .ok c.withDefaults ∧ c.withDefaults.defects = []) ∧
      (¬ c.Valid → ∃ ds, loadJson text = .error (.invalid ds) ∧ ∀ es, c.Reports es ↔ es = ds) := by
  rw [loadJson_of_ofJson h]
  refine ⟨⟨?_, fun hvalid => ⟨_, accept_of_valid hvalid⟩⟩, fun hvalid => ?_, fun hvalid => ?_⟩
  · rintro ⟨d, hd⟩
    refine Classical.byContradiction fun hvalid => ?_
    rw [accept_of_not_valid hvalid] at hd
    cases hd
  · rw [defects_withDefaults]
    exact ⟨accept_of_valid hvalid, c.defects_eq_nil_iff.mpr hvalid⟩
  · exact ⟨c.defects, accept_of_not_valid hvalid, fun _ => reports_iff⟩

def unstartableDocument : Json.Value :=
  .object [
    ("version", .ofInt64 2),
    ("endpoints", .array [
      .object [("endpoint", .string "/orders")],
      .object [],
      .object [("endpoint", .string "users")],
      .object [("endpoint", .string "")]])]

def unstartable : Config where
  version := 2
  endpoints := [{ path := "/orders" }, {}, { path := "users" }, {}]

theorem loadJson_exact_unstartable :
    ofJson (Json.compact unstartableDocument) = .ok unstartable ∧ ¬ unstartable.Valid ∧
      loadJson (Json.compact unstartableDocument) = .error (.invalid [.unsupportedVersion 2 3,
        .emptyPath 1, .relativePath "users", .emptyPath 3]) := by
  have hread : ofJson (Json.compact unstartableDocument) = .ok unstartable := by
    have hfits : Json.Fits 0 unstartableDocument := by
      simp [unstartableDocument, Json.Fits, Json.MembersFit, Json.ItemsFit, Json.Value.ofInt64,
        Json.depthLimit]
    rw [ofJson, Json.parse_compact hfits]
    rfl
  have hvalid : ¬ unstartable.Valid := fun h => absurd h.version_eq (by decide)
  obtain ⟨ds, hload, hreports⟩ := (loadJson_exact hread).2.2 hvalid
  have hds : unstartable.Reports [.unsupportedVersion 2 3, .emptyPath 1, .relativePath "users",
      .emptyPath 3] := reports_iff.mpr (by decide +kernel)
  refine ⟨hread, hvalid, ?_⟩
  rw [(hreports _).mp hds]
  exact hload

end Gateway.Config
