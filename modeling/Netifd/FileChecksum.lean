import Netifd.ReflectedCrc

/-!
# The checksum of a file

`crc32_file` of `utils.c`: a table that is made by the first call, and a loop over the blocks that
`fread` returns.
-/

namespace Netifd.FileChecksum
open ReflectedCrc

/-- The polynomial of CRC-32. -/
def crcPoly : BitVec 32 := 0xEDB88320

abbrev CrcTable := Vector (BitVec 32) 256

/-- One round of the loop over `j`. -/
def crcRound (c : BitVec 32) : BitVec 32 :=
  if c &&& 1 ≠ 0 then 0xEDB88320 ^^^ (c >>> 1) else c >>> 1

/-- `crcvals` after the loop over `i`. -/
def crcvals : CrcTable := Vector.ofFn fun i => crcRound^[8] (BitVec.ofNat 32 i)

theorem crcIndex_lt (c : BitVec 32) (b : BitVec 8) :
    ((c ^^^ b.setWidth 32) &&& 0xFF).toNat < 256 := by
  rw [BitVec.toNat_and]
  exact Nat.lt_of_le_of_lt Nat.and_le_right (by decide)

/-- `crcvals[(c ^ b) & 0xFF] ^ (c >> 8)`. -/
def crcByte (table : CrcTable) (c : BitVec 32) (b : BitVec 8) : BitVec 32 :=
  table.get ⟨((c ^^^ b.setWidth 32) &&& 0xFF).toNat, crcIndex_lt c b⟩ ^^^ (c >>> 8)

/-- `sizeof(buf)`. -/
def blockSize : ℕ := 1024

/-- The loop over the blocks: `fread` returns the first bytes of what is left of the file, and a
block that is not full is the last. -/
def crcBlocks (table : CrcTable) (c : BitVec 32) (file : List (BitVec 8)) : BitVec 32 :=
  let c := (file.take blockSize).foldl (crcByte table) c
  if (file.take blockSize).length = blockSize then crcBlocks table c (file.drop blockSize) else c
termination_by file.length
decreasing_by
  rename_i hfull
  rw [List.length_take, blockSize] at hfull
  rw [List.length_drop, blockSize]
  omega

/-- `crc32_file`, with its static variable. -/
def crc32File (static : Option CrcTable) (file : List (BitVec 8)) :
    BitVec 32 × Option CrcTable :=
  let table := static.getD crcvals
  (crcBlocks table 0xFFFFFFFF file ^^^ 0xFFFFFFFF, some table)

/-- The results of calls for several files. -/
def crc32Files (static : Option CrcTable) : List (List (BitVec 8)) → List (BitVec 32)
  | [] => []
  | file :: files =>
    let (c, static) := crc32File static file
    c :: crc32Files static files

/-- The bits of a file, the lowest of each byte first. -/
def fileBits (file : List (BitVec 8)) : List Bool := file.flatMap (lowBits 8)

/-- The check over the bits. -/
def crc32 (file : List (BitVec 8)) : BitVec 32 :=
  feed crcPoly 0xFFFFFFFF (fileBits file) ^^^ 0xFFFFFFFF

theorem crcRound_eq (c : BitVec 32) : crcRound c = shift crcPoly c := by
  have hlow : c &&& 1 = (BitVec.ofBool (c.getLsbD 0)).setWidth 32 :=
    BitVec.and_one_eq_setWidth_ofBool_getLsbD
  rw [crcRound, shift, hlow]
  cases c.getLsbD 0 <;> rfl

theorem crcvals_get (i : Fin 256) : crcvals.get i = (shift crcPoly)^[8] (BitVec.ofNat 32 i) := by
  have hround : crcRound = shift crcPoly := funext crcRound_eq
  rw [← hround]
  exact Vector.getElem_ofFn i.isLt

theorem crcByte_eq (c : BitVec 32) (b : BitVec 8) :
    crcByte crcvals c b = feed crcPoly c (lowBits 8 b) := by
  have hbits : lowBits 8 b = lowBits 8 (b.setWidth 32) := by
    refine List.map_congr_left fun i hi => ?_
    have hlt : i < 32 := by
      have := List.mem_range.mp hi
      omega
    simp [hlt]
  have hhigh : b.setWidth 32 >>> 8 = 0 := by
    apply BitVec.eq_of_getLsbD_eq
    intro i hi
    simp
  calc crcByte crcvals c b
      = (shift crcPoly)^[8] ((c ^^^ b.setWidth 32) &&& 0xFF) ^^^ (c >>> 8) := by
        rw [crcByte, crcvals_get, BitVec.ofNat_toNat, BitVec.setWidth_eq]
    _ = (shift crcPoly)^[8] ((c ^^^ b.setWidth 32) &&& lowMask 32 8) ^^^
          ((c ^^^ b.setWidth 32) >>> 8) := by
        rw [BitVec.ushiftRight_xor_distrib, hhigh, BitVec.xor_comm (c >>> 8)]
        exact congrArg _ BitVec.zero_xor.symm
    _ = (shift crcPoly)^[8] (c ^^^ b.setWidth 32) := (iterate_shift_eq _ _ 8).symm
    _ = feed crcPoly c (lowBits 8 b) := by rw [hbits, feed_lowBits _ _ _ hhigh]

theorem crcBlocks_eq (table : CrcTable) (c : BitVec 32) (file : List (BitVec 8)) :
    crcBlocks table c file = file.foldl (crcByte table) c := by
  fun_induction crcBlocks table c file with
  | case1 c file c' hfull ih =>
    rw [ih, ← List.foldl_append, List.take_append_drop]
  | case2 c file c' hlast =>
    have hshort : file.length ≤ blockSize := by
      rw [List.length_take] at hlast
      omega
    exact congrArg _ (List.take_of_length_le hshort)

theorem foldl_crcByte (c : BitVec 32) (file : List (BitVec 8)) :
    file.foldl (crcByte crcvals) c = feed crcPoly c (fileBits file) := by
  induction file generalizing c with
  | nil => rfl
  | cons b file ih =>
    rw [List.foldl_cons, ih, crcByte_eq, fileBits, fileBits, List.flatMap_cons, feed, feed, feed,
      List.foldl_append]

theorem crc32File_eq {static : Option CrcTable} (hstatic : static.getD crcvals = crcvals)
    (file : List (BitVec 8)) : crc32File static file = (crc32 file, some crcvals) := by
  rw [crc32File, hstatic, crcBlocks_eq, foldl_crcByte, crc32]

/-- Every call returns the check over the bits of its file. -/
theorem crc32Files_eq (files : List (List (BitVec 8))) :
    crc32Files none files = files.map crc32 := by
  have hcalls : ∀ static : Option CrcTable, static.getD crcvals = crcvals →
      crc32Files static files = files.map crc32 := by
    induction files with
    | nil => exact fun _ _ => rfl
    | cons file files ih =>
      intro static hstatic
      rw [crc32Files, crc32File_eq hstatic, List.map_cons, ← ih (some crcvals) Option.getD_some]
  exact hcalls none Option.getD_none

example : crc32File none ("123456789".toList.map fun c => BitVec.ofNat 8 c.toNat) =
    (0xCBF43926, some crcvals) := by
  rw [crc32File_eq Option.getD_none, Prod.mk.injEq]
  exact ⟨by decide +kernel, rfl⟩

theorem lowBits_injective : Function.Injective (lowBits 8 : BitVec 8 → List Bool) := by
  intro a b heq
  apply BitVec.eq_of_getLsbD_eq
  intro i hi
  have hbit := congrArg (fun l => l[i]?) heq
  simpa [lowBits, hi] using hbit

theorem fileBits_length (file : List (BitVec 8)) : (fileBits file).length = 8 * file.length := by
  induction file with
  | nil => rfl
  | cons b file ih =>
    rw [fileBits, List.flatMap_cons, List.length_append, ← fileBits, ih]
    simp [lowBits]
    omega

theorem fileBits_injective : Function.Injective fileBits := by
  intro a
  induction a with
  | nil =>
    intro b heq
    have hlen := congrArg List.length heq
    rw [fileBits_length, fileBits_length] at hlen
    exact (List.eq_nil_of_length_eq_zero (by simpa using hlen.symm)).symm
  | cons x a ih =>
    intro b heq
    cases b with
    | nil =>
      have hlen := congrArg List.length heq
      rw [fileBits_length, fileBits_length] at hlen
      simp at hlen
    | cons y b =>
      rw [fileBits, fileBits, List.flatMap_cons, List.flatMap_cons] at heq
      obtain ⟨hfirst, hrest⟩ := List.append_inj heq (by simp [lowBits])
      rw [lowBits_injective hfirst, ih hrest]

theorem crc32_window {before bytes bytes' after : List (BitVec 8)} (hlen : bytes.length ≤ 4)
    (hsame : bytes'.length = bytes.length)
    (heq : crc32 (before ++ bytes ++ after) = crc32 (before ++ bytes' ++ after)) :
    bytes = bytes' := by
  have hbits : ∀ l, fileBits (before ++ l ++ after) =
      fileBits before ++ fileBits l ++ fileBits after := by
    intro l
    simp [fileBits]
  rw [crc32, crc32, hbits, hbits] at heq
  apply fileBits_injective
  apply feed_window (by decide) _ _ ((BitVec.xor_left_inj _).mp heq)
  · rw [fileBits_length]
    omega
  · rw [fileBits_length, fileBits_length, hsame]

end Netifd.FileChecksum
