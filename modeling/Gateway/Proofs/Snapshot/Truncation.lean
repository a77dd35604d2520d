import Gateway.Proofs.Gzip.Continuation
import Gateway.Proofs.Snapshot.Codec

namespace Gateway.Snapshot

theorem decode_of_unpack?_none {bs : Bytes} (h : Gzip.unpack? bs = none) :
    decode bs = .error (if bs = [] then .emptyInput else .notPacked) := by
  cases bs with
  | nil => rfl
  | cons b bs =>
      rw [decode, h]
      rfl

theorem decode_whole_member {pack : Bytes → Bytes} (hpack : Gzip.PacksMember pack)
    (s : Snapshot) :
    Gzip.member? (s.encode pack) = some (s.wire, []) ∧
      ∀ bs, Gzip.member? bs = some (s.wire, []) →
        (∀ p, p <+: bs → p ≠ bs →
          decode p = .error (if p = [] then .emptyInput else .notPacked)) ∧
        ∀ t, decode (bs ++ t) = decode (s.encode pack) := by
  refine ⟨hpack s.wire, fun bs hbs => ⟨fun p hp hne => ?_, fun t => ?_⟩⟩
  · exact decode_of_unpack?_none (Gzip.unpack?_eq_none_of_prefix hbs hp hne)
  · rw [decode_of_unpack? (Gzip.unpack?_append_right hbs t), encode,
      decode_of_unpack? (hpack.packs s.wire)]

def serving : Snapshot where
  flags := [32]

def servingDeflated : Bytes :=
  [0x1F, 0x8B, 0x08, 0x00, 0x00, 0x00, 0x00, 0x00, 0x02, 0xFF, 0xAB, 0x56, 0x4A, 0x53, 0xB2,
    0x8A, 0x36, 0x36, 0x8A, 0xAD, 0x05, 0x00, 0x8D, 0xAF, 0x70, 0x01, 0x0A, 0x00, 0x00, 0x00]

theorem decode_whole_member_deflated :
    Gzip.PacksMember (Gzip.recorded serving.wire servingDeflated) ∧
      serving.encode (Gzip.recorded serving.wire servingDeflated) = servingDeflated ∧
      servingDeflated.take 26 <+: servingDeflated ∧
      servingDeflated.take 26 ≠ servingDeflated ∧
      decode (servingDeflated.take 26) = .error .notPacked ∧
      decode (servingDeflated ++ [0x1F]) = decode servingDeflated := by
  have hmember : Gzip.member? servingDeflated = some (serving.wire, []) := by decide +kernel
  have hpack := Gzip.packsMember_recorded hmember
  have hencode : serving.encode (Gzip.recorded serving.wire servingDeflated) = servingDeflated :=
    if_pos rfl
  have hcut := List.take_prefix 26 servingDeflated
  have hne : servingDeflated.take 26 ≠ servingDeflated := by decide
  obtain ⟨hcuts, hcontinued⟩ := (decode_whole_member hpack serving).2 servingDeflated hmember
  rw [hencode] at hcontinued
  exact ⟨hpack, hencode, hcut, hne, hcuts _ hcut hne, hcontinued [0x1F]⟩

end Gateway.Snapshot
