import HostBoundary.Vector128.Lemmas

/-!
# Four views of a vector

A vector can be taken as two halves, as sixteen bytes, as one word, or as itself.
`vector_views_agree` says that they are views of one value: each of them can be made from each
other one, and two vectors are the same as soon as they are in one view. The bytes tell how: byte
`i` is digit `i` to the base 256 of the low half, and byte `8 + i` that of the high half, which
makes it digit `i` and `8 + i` of the word.
-/

namespace HostBoundary.Vector128

/-! ## Bytes -/

/-- The bytes of a vector made from halves are first those of the low half. -/
theorem getElem?_bytes_low (high low : UInt64) {i : Nat} (hi : i < 8) :
    (ofHalves high low).block.bytes[i]? = some (.ofNat (low.toNat / 256 ^ i)) := by
  show (LittleEndian.ofNat 8 low.toNat ++ LittleEndian.ofNat 8 high.toNat)[i]? = _
  rw [List.getElem?_append_left (by rwa [LittleEndian.length_ofNat]),
    LittleEndian.getElem?_ofNat _ hi]

/-- The bytes behind them are those of the high half. -/
theorem getElem?_bytes_high (high low : UInt64) {i : Nat} (hi : i < 8) :
    (ofHalves high low).block.bytes[8 + i]? = some (.ofNat (high.toNat / 256 ^ i)) := by
  have hbehind : (LittleEndian.ofNat 8 low.toNat).length ≤ 8 + i := by
    rw [LittleEndian.length_ofNat]
    exact Nat.le_add_right 8 i
  show (LittleEndian.ofNat 8 low.toNat ++ LittleEndian.ofNat 8 high.toNat)[8 + i]? = _
  rw [List.getElem?_append_right hbehind, LittleEndian.length_ofNat, Nat.add_sub_cancel_left,
    LittleEndian.getElem?_ofNat _ hi]

/-! ## Words -/

/-- The vector made from the number of a block is that of the block. -/
theorem ofWord_toNat (b : Block) : ofWord (.ofNat 128 b.toNat) = ⟨b⟩ :=
  ofWord_toWord ⟨b⟩

/-- The vector made from the word of two halves is that of the halves. -/
theorem ofWord_halves (high low : UInt64) :
    ofWord (.ofNat 128 (high.toNat * 2 ^ 64 + low.toNat)) = ofHalves high low := by
  rw [← toNat_block_ofHalves]
  exact ofWord_toWord (ofHalves high low)

/-- The number of the block of a word. -/
theorem toNat_block_ofWord (n : BitVec 128) : (ofWord n).block.toNat = n.toNat := by
  rw [← toNat_toWord, toWord_ofWord]

/-! ## Equality -/

/-- Vectors with the same halves, bytes or word are one vector. -/
theorem eq_tfae (v w : Vector128) :
    [v = w, v.high = w.high ∧ v.low = w.low, v.block.bytes = w.block.bytes,
      v.toWord = w.toWord].TFAE := by
  tfae_have 1 → 2 := by
    rintro rfl
    exact ⟨rfl, rfl⟩
  tfae_have 2 → 3 := by
    rintro ⟨hhigh, hlow⟩
    rw [← ofHalves_high_low v, hhigh, hlow, ofHalves_high_low]
  tfae_have 3 → 4 := fun hbytes => congrArg toWord (Vector128.ext (Block.ext hbytes))
  tfae_have 4 → 1 := by
    intro hword
    rw [← ofWord_toWord v, hword, ofWord_toWord]
  tfae_finish

/-- A vector made from two halves has these halves. Its word is the high half above the low half, as
a number, and its bytes are the eight bytes of the low half and then those of the high half, each
least significant byte first. Any sixteen bytes are the bytes of the vector made from its halves,
and of the one made from the number that they spell. Every word is the word of the vector made from
it, and every vector is the one made from its word; the halves of a word are its quotient and its
remainder, and its bytes are its digits to the base 256. So two vectors are equal exactly when their
halves are, or their bytes, or their words. -/
theorem vector_views_agree :
    (∀ high low : UInt64,
      (ofHalves high low).high = high ∧ (ofHalves high low).low = low ∧
      (ofHalves high low).toWord.toNat = high.toNat * 2 ^ 64 + low.toNat ∧
      ofWord (.ofNat 128 (high.toNat * 2 ^ 64 + low.toNat)) = ofHalves high low ∧
      ∀ i : Fin 8,
        (ofHalves high low).block.bytes[i.val]? = some (.ofNat (low.toNat / 256 ^ i.val)) ∧
        (ofHalves high low).block.bytes[8 + i.val]? = some (.ofNat (high.toNat / 256 ^ i.val))) ∧
    (∀ b : Block, (ofHalves (mk b).high (mk b).low).block = b ∧
      (mk b).toWord.toNat = LittleEndian.toNat b.bytes ∧
      ofWord (.ofNat 128 (LittleEndian.toNat b.bytes)) = mk b) ∧
    (∀ n : BitVec 128, (ofWord n).toWord = n ∧
      (ofWord n).high.toNat = n.toNat / 2 ^ 64 ∧ (ofWord n).low.toNat = n.toNat % 2 ^ 64 ∧
      ∀ i : Fin 16, (ofWord n).block.bytes[i.val]? = some (.ofNat (n.toNat / 256 ^ i.val))) ∧
    (∀ v : Vector128, ofWord v.toWord = v) ∧
    ∀ v w : Vector128, [v = w, v.high = w.high ∧ v.low = w.low, v.block.bytes = w.block.bytes,
      v.toWord = w.toWord].TFAE := by
  refine ⟨fun high low => ⟨high_ofHalves high low, low_ofHalves high low, toWord_ofHalves high low,
      ofWord_halves high low, fun i => ⟨getElem?_bytes_low high low i.isLt,
        getElem?_bytes_high high low i.isLt⟩⟩,
    fun b => ⟨?_, toNat_toWord ⟨b⟩, ofWord_toNat b⟩,
    fun n => ⟨toWord_ofWord n, ?_, ?_, fun i => ?_⟩, ofWord_toWord, eq_tfae⟩
  · rw [ofHalves_high_low]
  · rw [toNat_high, toNat_block_ofWord]
  · rw [toNat_low, toNat_block_ofWord]
  · exact LittleEndian.getElem?_ofNat _ i.isLt

end HostBoundary.Vector128
