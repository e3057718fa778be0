import Remit.Proofs.Execution
import Remit.Proofs.Hex
import Remit.Wire.Encoding

/-!
The display text of an outpoint, last byte of its id first, and the outpoint that a text and an
index name. Each undoes the other, and the text that a transaction is shown under names it.
-/

namespace Remit

theorem Digest.bytes_of_ofBytes? {bytes : Bytes} {digest : Digest}
    (made : Digest.ofBytes? bytes = some digest) : digest.bytes = bytes := by
  unfold Digest.ofBytes? at made
  split at made
  case isTrue whole =>
    cases made
    rfl
  case isFalse => cases made

namespace Wire

namespace OutPoint

variable {id : Bytes} {text : String} {index : Int} {p : OutPoint}

theorem exists_index_iff :
    (∃ place : UInt32, (place.toNat : Int) = index) ↔ 0 ≤ index ∧ index < 0x100000000 := by
  constructor
  · rintro ⟨place, rfl⟩
    have bound := place.toNat_lt
    omega
  · rintro ⟨nonneg, below⟩
    have fits : index.toNat < UInt32.size := by
      change index.toNat < 0x100000000
      omega
    exact ⟨UInt32.ofNat index.toNat, by rw [UInt32.toNat_ofNat_of_lt' fits]; omega⟩

theorem make_self (p : OutPoint) : make p.txId.bytes p.index.toNat = .ok p := by
  have bound := p.index.toNat_lt
  have within : (0 : Int) ≤ p.index.toNat ∧ (p.index.toNat : Int) ≤ 0xFFFFFFFF := by
    omega
  rw [make, Digest.ofBytes?_bytes]
  dsimp only
  rw [if_pos within, Int.toNat_natCast, UInt32.ofNat_toNat]

theorem make_eq_ok_iff :
    make id index = .ok p ↔ p.txId.bytes = id ∧ (p.index.toNat : Int) = index := by
  constructor
  · intro made
    cases digest : Digest.ofBytes? id with
    | none =>
        rw [make, digest] at made
        cases made
    | some found =>
        rw [make, digest] at made
        dsimp only at made
        split at made
        case isTrue within =>
          -- An index that is accepted is that of an outpoint, which is then the one that is made.
          have below : index < 0x100000000 := Int.lt_of_le_of_lt within.2 (by decide)
          obtain ⟨place, rfl⟩ := exists_index_iff.mpr ⟨within.1, below⟩
          rw [Int.toNat_natCast, UInt32.ofNat_toNat] at made
          cases made
          exact ⟨Digest.bytes_of_ofBytes? digest, rfl⟩
        case isFalse => cases made
  · rintro ⟨rfl, rfl⟩
    exact make_self p

theorem ofHex_eq_ok_iff :
    ofHex text index = .ok p ↔
      Hex.toBytes? text = some p.txId.bytes.reverse ∧ (p.index.toNat : Int) = index := by
  unfold ofHex
  cases read : Hex.toBytes? text with
  | none => simp
  | some bytes =>
      dsimp only
      rw [make_eq_ok_iff, Option.some.injEq, ← List.reverse_eq_iff, eq_comm (a := bytes)]

theorem ofHex_display (digest : Digest) (index : UInt32) :
    ofHex digest.display index.toNat = .ok ⟨digest, index⟩ :=
  ofHex_eq_ok_iff.mpr ⟨Hex.toBytes?_ofBytes _, rfl⟩

/-- The text is thirty-two pairs of digits, with blanks around pairs at most. -/
def IsIdText (text : String) : Prop :=
  ∃ pairs, Hex.PairsText text.toList pairs ∧ pairs.length = 32

theorem exists_ofHex_iff :
    (∃ p, ofHex text index = .ok p) ↔ IsIdText text ∧ 0 ≤ index ∧ index < 0x100000000 := by
  constructor
  · rintro ⟨p, found⟩
    obtain ⟨read, place⟩ := ofHex_eq_ok_iff.mp found
    obtain ⟨pairs, spelled, same⟩ := Hex.toBytes?_eq_some_iff.mp read
    have count : pairs.length = 32 := by
      rw [← List.length_map (f := Hex.Pair.byte), ← same, List.length_reverse, p.txId.length_eq]
    exact ⟨⟨pairs, spelled, count⟩, exists_index_iff.mp ⟨p.index, place⟩⟩
  · rintro ⟨⟨pairs, spelled, count⟩, within⟩
    obtain ⟨place, rfl⟩ := exists_index_iff.mpr within
    have whole : (pairs.map Hex.Pair.byte).reverse.length = 32 := by
      rw [List.length_reverse, List.length_map, count]
    have read := Hex.toBytes?_eq_some_iff.mpr ⟨pairs, spelled, rfl⟩
    refine ⟨⟨⟨_, whole⟩, place⟩, ofHex_eq_ok_iff.mpr ⟨?_, rfl⟩⟩
    rw [read, List.reverse_reverse]

theorem txIdHex_of_ofHex (found : ofHex text index = .ok p) : p.txIdHex = Hex.compact text :=
  Hex.ofBytes_of_toBytes? (ofHex_eq_ok_iff.mp found).1

end OutPoint

/-- Display texts and outpoints are inverse to each other, up to blanks and capitals in a text, and
the text of a transaction names its double digest. -/
theorem display_names_outPoint :
    (∀ p : OutPoint, OutPoint.ofHex p.txIdHex p.index.toNat = .ok p) ∧
    (∀ (text : String) (index : Int),
      (∃ p, OutPoint.ofHex text index = .ok p) ↔
        OutPoint.IsIdText text ∧ 0 ≤ index ∧ index < 0x100000000) ∧
    (∀ (text : String) (index : Int) (p : OutPoint), OutPoint.ofHex text index = .ok p →
      p.txIdHex = Hex.compact text ∧ (p.index.toNat : Int) = index) ∧
    ∀ (tx : Transaction) (bytes : Bytes), tx.encode = .ok bytes →
      ∃ text, tx.id = .ok text ∧ ∀ index : Int, 0 ≤ index → index < 0x100000000 →
        ∃ p, OutPoint.ofHex text index = .ok p ∧ (p.index.toNat : Int) = index ∧
          p.txId.bytes = (sha256 (sha256 bytes).bytes).bytes ∧ p.txIdHex = text := by
  refine ⟨?inverse, ?accepted, ?shown, ?named⟩
  case inverse =>
    intro p
    exact OutPoint.ofHex_display p.txId p.index
  case accepted =>
    intro text index
    exact OutPoint.exists_ofHex_iff
  case shown =>
    intro text index p found
    exact ⟨OutPoint.txIdHex_of_ofHex found, (OutPoint.ofHex_eq_ok_iff.mp found).2⟩
  case named =>
    intro tx bytes encoded
    have named : tx.id = .ok (sha256d bytes).display := by
      rw [Transaction.id, Transaction.digest, encoded]
      rfl
    refine ⟨_, named, ?_⟩
    intro index nonneg below
    obtain ⟨place, rfl⟩ := OutPoint.exists_index_iff.mpr ⟨nonneg, below⟩
    exact ⟨⟨sha256d bytes, place⟩, OutPoint.ofHex_display _ place, rfl, rfl, rfl⟩

/-- An id in capitals with a blank, and the text of the empty transaction. -/
theorem display_names_outPoint_spelled_and_empty :
    let id : Digest := ⟨0xBC :: List.replicate 31 0xAA, rfl⟩
    OutPoint.txIdHex ⟨id, 7⟩ =
        Hex.compact (String.ofList (List.replicate 62 'A' ++ [' ', 'B', 'c'])) ∧
      ∃ text, Transaction.id {} = .ok text ∧ ∃ p, OutPoint.ofHex text 0xFFFFFFFF = .ok p ∧
        p.txId.bytes = (sha256 (sha256 (1 :: List.replicate 13 0)).bytes).bytes := by
  intro id
  obtain ⟨-, -, shown, named⟩ := display_names_outPoint
  obtain ⟨spelled, -⟩ := shown (String.ofList (List.replicate 62 'A' ++ [' ', 'B', 'c'])) 7 ⟨id, 7⟩
    (by decide +kernel)
  have encoded : Transaction.encode {} = .ok (1 :: List.replicate 13 0) := by
    decide +kernel
  obtain ⟨text, display, found⟩ := named {} _ encoded
  obtain ⟨p, read, -, digest, -⟩ := found 0xFFFFFFFF (by decide) (by decide)
  exact ⟨spelled, text, display, p, read, digest⟩

end Wire

end Remit
