import Gateway.Proofs.Gzip.Stored
import Gateway.Proofs.Snapshot.Alias
import Gateway.Proofs.Snapshot.Document
import Gateway.Snapshot.Codec

namespace Gateway.Snapshot

def CodeFree (s : Snapshot) : Prop :=
  ∀ m ∈ s.allComponents, ∀ code ∈ AliasTable.standard.codes, m.contains code = false

def normal (s : Snapshot) : Snapshot :=
  s.mapComponents (expand ∘ shorten)

section Components

open AliasTable (standard standard_lawful toRenaming_apply toRenaming_symm_apply mem_codes_iff
  avoids_toRenaming_iff)

theorem expand_shorten_eq_self_iff (m : Components) :
    expand (shorten m) = m ↔ ∀ code ∈ standard.codes, m.contains code = false := by
  rw [expand, shorten, ← toRenaming_apply standard_lawful, ← toRenaming_symm_apply standard_lawful,
    Renaming.symm_apply_apply_eq_iff, avoids_toRenaming_iff]

theorem shorten_expand_shorten (m : Components) :
    shorten (expand (shorten m)) = shorten m := by
  rw [expand, shorten, ← toRenaming_apply standard_lawful, ← toRenaming_symm_apply standard_lawful,
    Renaming.apply_symm_apply_apply]

theorem contains_expand {code : String} (hcode : code ∈ standard.codes) (m : Components) :
    (expand m).contains code = false := by
  obtain ⟨ns, hns⟩ := (mem_codes_iff standard_lawful).mp hcode
  rw [KeyMap.contains_eq_false_iff, expand, ← toRenaming_symm_apply standard_lawful]
  exact Renaming.get?_apply_replaced _ m (Renaming.symm_target _ hns)

end Components

theorem normal_eq_self_iff (s : Snapshot) : s.normal = s ↔ s.CodeFree := by
  simp only [normal, mapComponents_eq_self_iff, Function.comp_apply, expand_shorten_eq_self_iff,
    CodeFree]

theorem codeFree_mapComponents_expand (s : Snapshot) : (s.mapComponents expand).CodeFree := by
  intro m hm code hcode
  rw [allComponents_mapComponents] at hm
  obtain ⟨m, -, rfl⟩ := List.mem_map.mp hm
  exact contains_expand hcode m

theorem codeFree_normal (s : Snapshot) : s.normal.CodeFree := by
  rw [normal, ← mapComponents_mapComponents]
  exact codeFree_mapComponents_expand _

theorem wire_normal (s : Snapshot) : s.normal.wire = s.wire := by
  have h : shorten ∘ expand ∘ shorten = shorten := funext shorten_expand_shorten
  rw [wire, wire, normal, mapComponents_mapComponents, h]

theorem ofWire_wire (s : Snapshot) : ofWire s.wire = .ok s.normal := by
  rw [ofWire, wire, read_parse_compact, Except.map, mapComponents_mapComponents, normal]

theorem decode_of_unpack? {bs text : Bytes} (h : Gzip.unpack? bs = some text) :
    decode bs = (ofWire text).mapError .unreadable := by
  cases bs with
  | nil => cases h
  | cons b bs =>
      rw [decode, h]
      rfl

theorem codeFree_of_ofWire {text : Bytes} {s : Snapshot} (h : ofWire text = .ok s) :
    s.CodeFree := by
  obtain ⟨t, -, rfl⟩ := map_eq_ok_iff.mp h
  exact t.codeFree_mapComponents_expand

theorem codeFree_of_decode {bs : Bytes} {s : Snapshot} (h : decode bs = .ok s) : s.CodeFree := by
  rw [decode] at h
  split at h
  · cases h
  · split at h
    · cases h
    · exact codeFree_of_ofWire (mapError_eq_ok_iff.mp h)

section Packed

variable {pack : Bytes → Bytes}

theorem decode_encode (hpack : Gzip.Packs pack) (s : Snapshot) :
    decode (s.encode pack) = .ok s.normal := by
  rw [encode, decode_of_unpack? (hpack s.wire), ofWire_wire]
  rfl

theorem decode_encode_of_codeFree (hpack : Gzip.Packs pack) {s : Snapshot} (h : s.CodeFree) :
    decode (s.encode pack) = .ok s := by
  rw [decode_encode hpack, s.normal_eq_self_iff.mpr h]

theorem decode_encode_eq_iff_codeFree (hpack : Gzip.Packs pack) (s : Snapshot) :
    ∃ t, decode (s.encode pack) = .ok t ∧ (t = s ↔ s.CodeFree) :=
  ⟨s.normal, decode_encode hpack s, s.normal_eq_self_iff⟩

def coded : Snapshot where
  components := KeyMap.empty.insert "d" [1]

def codedDeflated : Bytes :=
  [0x1F, 0x8B, 0x08, 0x00, 0x00, 0x00, 0x00, 0x00, 0x02, 0xFF, 0xAB, 0x56, 0x4A, 0x56, 0xB2,
    0xAA, 0x56, 0x4A, 0x51, 0xB2, 0x8A, 0x36, 0x8C, 0xAD, 0xAD, 0x05, 0x00, 0x1D, 0x83, 0x5E,
    0x72, 0x0F, 0x00, 0x00, 0x00]

theorem member?_codedDeflated : Gzip.member? codedDeflated = some (coded.wire, []) := by
  decide +kernel

theorem packs_codedDeflated : Gzip.Packs (Gzip.recorded coded.wire codedDeflated) :=
  (Gzip.packsMember_recorded member?_codedDeflated).packs

theorem decode_encode_eq_iff_codeFree_coded :
    Gzip.Packs (Gzip.recorded coded.wire codedDeflated) ∧
      coded.encode (Gzip.recorded coded.wire codedDeflated) = codedDeflated ∧
      ∃ t, decode codedDeflated = .ok t ∧ t ≠ coded := by
  have hencode : coded.encode (Gzip.recorded coded.wire codedDeflated) = codedDeflated :=
    if_pos rfl
  have hcode : ¬coded.CodeFree := by
    intro h
    have hd := h _ List.mem_cons_self "d" (by decide)
    cases hd
  obtain ⟨t, ht, hfree⟩ := decode_encode_eq_iff_codeFree packs_codedDeflated coded
  rw [hencode] at ht
  exact ⟨packs_codedDeflated, hencode, t, ht, fun heq => hcode (hfree.mp heq)⟩

theorem stored_form_canonical (hpack : Gzip.Packs pack) :
    (∀ bs s, decode bs = .ok s → s.CodeFree ∧ decode (s.encode pack) = .ok s) ∧
      ∀ s : Snapshot, ∃ t, decode (s.encode pack) = .ok t ∧
        (∃ text, Gzip.unpack? (s.encode pack) = some text ∧
          Gzip.unpack? (t.encode pack) = some text) ∧
        decode (t.encode pack) = .ok t := by
  constructor
  · intro bs s h
    have hfree := codeFree_of_decode h
    exact ⟨hfree, decode_encode_of_codeFree hpack hfree⟩
  · intro s
    have hunpack : Gzip.unpack? (s.normal.encode pack) = some s.wire := by
      rw [encode, hpack, wire_normal]
    exact ⟨s.normal, decode_encode hpack s, ⟨s.wire, hpack s.wire, hunpack⟩,
      decode_encode_of_codeFree hpack s.codeFree_normal⟩

def proxied : Snapshot where
  components := KeyMap.empty.insert Namespace.proxy [1]

theorem stored_form_canonical_proxied :
    Gzip.Packs (Gzip.recorded coded.wire codedDeflated) ∧
      decode codedDeflated = .ok proxied ∧ proxied.CodeFree ∧
      decode (proxied.encode (Gzip.recorded coded.wire codedDeflated)) = .ok proxied := by
  have hdecode : decode codedDeflated = .ok proxied := by
    have hunpack : Gzip.unpack? codedDeflated = some coded.wire :=
      congrArg (Option.map Prod.fst) member?_codedDeflated
    rw [decode_of_unpack? hunpack, ofWire_wire]
    rfl
  exact ⟨packs_codedDeflated, hdecode,
    (stored_form_canonical packs_codedDeflated).1 _ proxied hdecode⟩

end Packed

def ReadFrom (s : Snapshot) (text : Bytes) : Prop :=
  (Json.parse text).read Snapshot.read = .ok s ∧
    ∀ bs, Gzip.unpack? bs = some text → decode bs = .ok (s.mapComponents expand)

theorem readFrom_of_parse {s : Snapshot} {d : Datum} {text : Bytes} (h : s.WrittenAs d)
    (hparse : Json.parse text = ⟨d, true⟩) : s.ReadFrom text := by
  have hread : (Json.parse text).read Snapshot.read = .ok s := by
    rw [hparse, Document.read, read_of_writtenAs h]
    rfl
  refine ⟨hread, fun bs hbs => ?_⟩
  rw [decode_of_unpack? hbs, ofWire, hread]
  rfl

theorem readFrom_of_writtenAs {s : Snapshot} {d : Datum} (h : s.WrittenAs d) :
    (∀ text, Json.parse text = ⟨d, true⟩ → s.ReadFrom text) ∧
      ∀ v t a b, Datum.ofValue v = d → Json.Fits 0 v → Json.Spells v t → Json.Blank a →
        Json.Blank b → s.ReadFrom (a ++ t ++ b) := by
  refine ⟨fun text hparse => readFrom_of_parse h hparse, ?_⟩
  rintro v t a b rfl hfits hspells ha hb
  exact readFrom_of_parse h (Json.parse_of_spells hspells hfits ha hb)

section Varied

def variedBackend : Json.Value :=
  .object [("note", .array []), ("c", .null)]

def variedEndpoint : Json.Value :=
  .object [("b", .array [variedBackend, .object []]), ("f", .array [])]

def variedDocument : Json.Value :=
  .object [
    ("note", .object [("f", .bool true)]),
    ("c", .object [("d", .array [.ofInt64 1]), ("custom", .null)]),
    ("e", .array [variedEndpoint]),
    ("f", .null)]

def variedSnapshot : Snapshot where
  endpoints := [{ backends := [{}, {}] }]
  components := (KeyMap.empty.insert "d" [1]).insert "custom" []

open Datum

theorem writtenAs_variedBackend : Backend.WrittenAs {} (ofValue variedBackend) := by
  have hothers : PassedOver ["f", "c"] [(some "note", .list [] .exact)] := by
    simp [PassedOver, isComplete, allComplete]
  exact ⟨[], _, .omitted, .member .null, _, _, hothers, (List.reverse_perm _).symm, rfl⟩

theorem writtenAs_variedEndpoint :
    Endpoint.WrittenAs { backends := [{}, {}] } (ofValue variedEndpoint) := by
  have hbackends : WritesList Backend.WrittenAs [{}, {}]
      (ofValue (.array [variedBackend, .object []])) :=
    .list (.cons writtenAs_variedBackend (.cons (Backend.writtenAs_toValue {}) .nil))
  exact ⟨_, _, [], .member (.list .nil), .member hbackends, .omitted, [], _,
    List.forall_mem_nil _, (List.reverse_perm _).symm, rfl⟩

theorem writtenAs_variedDocument : variedSnapshot.WrittenAs (ofValue variedDocument) := by
  have hendpoints : WritesList Endpoint.WrittenAs [{ backends := [{}, {}] }]
      (ofValue (.array [variedEndpoint])) :=
    .list (.cons writtenAs_variedEndpoint .nil)
  have hcomponents : WritesComponents variedSnapshot.components
      (ofValue (.object [("d", .array [.ofInt64 1]), ("custom", .null)])) :=
    .record (List.reverse_perm [("custom", []), ("d", [1])])
      (.cons ⟨rfl, .list (.cons rfl .nil)⟩ (.cons ⟨rfl, .null⟩ .nil))
  have hothers : PassedOver ["f", "a", "e", "c"] [(some "note", ofValue (.object
      [("f", .bool true)]))] := by
    simp [PassedOver, ofValue, ofMembers, isComplete, membersComplete]
  exact ⟨_, [], _, _, .member .null, .omitted, .member hendpoints, .member hcomponents, _, _,
    hothers, (List.reverse_perm _).symm, rfl⟩

theorem readFrom_of_writtenAs_varied :
    variedSnapshot.WrittenAs (ofValue variedDocument) ∧
      variedSnapshot.ReadFrom (Json.compact variedDocument) ∧
      decode (Gzip.store (Json.compact variedDocument)) =
        .ok (variedSnapshot.mapComponents expand) := by
  have hfits : Json.Fits 0 variedDocument := by
    simp [variedDocument, variedEndpoint, variedBackend, Json.Fits, Json.MembersFit,
      Json.ItemsFit, Json.Value.ofInt64, Json.depthLimit]
  have hread : variedSnapshot.ReadFrom (Json.compact variedDocument) :=
    (readFrom_of_writtenAs writtenAs_variedDocument).1 _ (Json.parse_compact hfits)
  exact ⟨writtenAs_variedDocument, hread, hread.2 _ (Gzip.packsMember_store.packs _)⟩

end Varied

end Gateway.Snapshot
