import Landscape.Lib.Reader
import Landscape.Pppoe.Tags
import Mathlib.Data.List.Sort

/-! The options of neighbour discovery: how they are written, how they are read, and in which order
they end up. -/
namespace Landscape.Icmpv6
open Pppoe Reader

def u16 : Reader UInt16 := do
  let bytes ← array 2
  return fromBeBytes16 bytes[0] bytes[1]

def u32 : Reader UInt32 := do
  let bytes ← array 4
  return fromBeBytes32 bytes[0] bytes[1] bytes[2] bytes[3]

theorem u16_run (x : UInt16) (rest : Bytes) : u16.run (toBeBytes16 x ++ rest) = some (x, rest) :=
  (bind_run (array_run #v[(x >>> 8).toUInt8, x.toUInt8] rest)).trans
    (congrArg (fun y => some (y, rest)) (PPPoETag.fromBeBytes16_toBeBytes16 x))

theorem u32_run (x : UInt32) (rest : Bytes) : u32.run (toBeBytes32 x ++ rest) = some (x, rest) :=
  (bind_run (array_run #v[(x >>> 24).toUInt8, (x >>> 16).toUInt8, (x >>> 8).toUInt8,
    x.toUInt8] rest)).trans
    (congrArg (fun y => some (y, rest)) (PPPoETag.fromBeBytes32_toBeBytes32 x))

inductive IcmpV6Option where
  | sourceLinkLayerAddress (length : UInt8) (addr : Vector UInt8 6)
  | targetLinkLayerAddress (length : UInt8) (addr : Vector UInt8 6)
  | prefixInformation (length prefixLength flags : UInt8)
      (validLifetime preferredLifetime reserved2 : UInt32)
      (network : Vector UInt8 16)
  | mtu (length : UInt8) (reserved : UInt16) (mtu : UInt32)
  | advertisementInterval (length : UInt8) (reserved : UInt16) (interval : UInt32)
  | routeInformation (length prefixLength flags : UInt8) (routeLifetime : UInt32) (network : Bytes)
  | recursiveDNSServer (length : UInt8) (reserved : UInt16) (lifetime : UInt32) (addresses : Bytes)
  | unknown (code length : UInt8) (data : Bytes)
  deriving DecidableEq, Inhabited

namespace IcmpV6Option

def code : IcmpV6Option → UInt8
  | sourceLinkLayerAddress .. => 1
  | targetLinkLayerAddress .. => 2
  | prefixInformation .. => 3
  | mtu .. => 5
  | advertisementInterval .. => 7
  | routeInformation .. => 24
  | recursiveDNSServer .. => 25
  | unknown code .. => code

def fromBody (optionType length : UInt8) : Reader IcmpV6Option :=
  let dataLen := length.toNat * 8 - 2
  match optionType with
  | 1 => do
    let addr ← array 6
    let _ ← vec (dataLen - 6)
    return sourceLinkLayerAddress length addr
  | 2 => do
    let addr ← array 6
    let _ ← vec (dataLen - 6)
    return targetLinkLayerAddress length addr
  | 3 => return prefixInformation length (← u8) (← u8) (← u32) (← u32) (← u32) (← array 16)
  | 5 => return mtu length (← u16) (← u32)
  | 7 => return advertisementInterval length (← u16) (← u32)
  | 24 => return routeInformation length (← u8) (← u8) (← u32) (← vec (dataLen - 6))
  | 25 => return recursiveDNSServer length (← u16) (← u32) (← vec (dataLen - 6))
  | _ => return unknown optionType length (← vec dataLen)

def fromReader : Reader IcmpV6Option := do
  let optionType ← u8
  let length ← u8
  fromBody optionType length

def toWriter : IcmpV6Option → Bytes
  | sourceLinkLayerAddress length addr => 1 :: length :: addr.toList
  | targetLinkLayerAddress length addr => 2 :: length :: addr.toList
  | prefixInformation length prefixLength flags validLifetime preferredLifetime reserved2 network =>
    3 :: length :: prefixLength :: flags ::
      (toBeBytes32 validLifetime ++ toBeBytes32 preferredLifetime ++
      toBeBytes32 reserved2 ++ network.toList)
  | mtu length reserved value => 5 :: length :: (toBeBytes16 reserved ++ toBeBytes32 value)
  | advertisementInterval length reserved interval =>
    7 :: length :: (toBeBytes16 reserved ++ toBeBytes32 interval)
  | routeInformation length prefixLength flags routeLifetime network =>
    24 :: length :: prefixLength :: flags :: (toBeBytes32 routeLifetime ++ network)
  | recursiveDNSServer length reserved lifetime addresses =>
    25 :: length :: (toBeBytes16 reserved ++ toBeBytes32 lifetime ++ addresses)
  | unknown code length data => code :: length :: data

end IcmpV6Option

open IcmpV6Option List

def ByCode (a b : IcmpV6Option) : Prop := a.code ≤ b.code

instance : DecidableRel ByCode := fun a b => inferInstanceAs (Decidable (a.code ≤ b.code))

instance : Std.Total ByCode := ⟨fun _ _ => UInt8.le_total _ _⟩

instance : IsTrans IcmpV6Option ByCode := ⟨fun _ _ _ => UInt8.le_trans⟩

variable (opt : IcmpV6Option)

/-- The place that `partition_point` finds in options that are sorted by code: before those of the
same code. -/
def insert (opts : List IcmpV6Option) : List IcmpV6Option := opts.orderedInsert ByCode opt

def readFrom : Nat → Bytes → List IcmpV6Option → List IcmpV6Option
  | 0, _, opts => opts
  | fuel + 1, input, opts =>
    if input = [] then opts
    else match fromReader.run input with
      | some (opt, rest) => readFrom fuel rest (insert opt opts)
      | none => opts

def readIcmpv6Options (input : Bytes) : List IcmpV6Option := readFrom input.length input []

def writeIcmpv6Options (opts : List IcmpV6Option) : Bytes := opts.flatMap toWriter

section
variable {β : Type} (bytes : β → Bytes) {opt : β → IcmpV6Option} {pieces : List β}
  (hne : ∀ b, bytes b ≠ [])
  (h : ∀ b ∈ pieces, ∀ rest, fromReader.run (bytes b ++ rest) = some (opt b, rest)) {fuel : Nat}
  {optionType : UInt8}
include hne h

theorem readFrom_flatMap (hfuel : (pieces.flatMap bytes).length ≤ fuel) (opts : List IcmpV6Option) :
    readFrom fuel (pieces.flatMap bytes) opts = (pieces.map opt).reverse.foldr insert opts := by
  induction pieces generalizing fuel opts with
  | nil => cases fuel <;> simp [readFrom]
  | cons b pieces ih =>
    have hpos : 0 < (bytes b).length := length_pos_of_ne_nil (hne b)
    rw [flatMap_cons, length_append] at hfuel
    obtain ⟨fuel,rfl⟩ : ∃ k, fuel = k + 1 := ⟨fuel - 1,by omega⟩
    rw [flatMap_cons, readFrom, if_neg (by simp [hne]), h b mem_cons_self, map_cons, reverse_cons,
      foldr_append]
    exact ih (fun b hb => h b (mem_cons_of_mem _ hb)) (by omega) _

/-- Options that are read one by one are sorted, the last one of a code first. -/
theorem readIcmpv6Options_flatMap :
    readIcmpv6Options (pieces.flatMap bytes) = (pieces.map opt).reverse.insertionSort ByCode :=
  readFrom_flatMap bytes hne h (Nat.le_refl _) []

end

theorem fromReader_run (optionType length : UInt8) (body : Bytes) :
    fromReader.run (optionType :: length :: body) = (fromBody optionType length).run body :=
  (bind_run (u8_run _ _)).trans (bind_run (u8_run _ _))

/-- A block of options as it is framed: a type, the length in units of eight bytes, and the rest. -/
structure Block where
  type : UInt8
  length : UInt8
  body : Bytes
  size : body.length + 2 = length.toNat * 8

variable (b : Block)

def Block.bytes : Bytes := b.type :: b.length :: b.body

/-- The option is read as one of the block's type, and its bytes are all that is taken. -/
def Block.Whole (opt : IcmpV6Option) : Prop :=
  opt.code = b.type ∧ ∀ rest, fromReader.run (b.bytes ++ rest) = some (opt, rest)

/-- One option for each block, read from the bytes of its block. -/
def Framed (blocks : List Block) : Prop :=
  ((readIcmpv6Options (blocks.flatMap Block.bytes)).map code).Perm (blocks.map Block.type) ∧
    ∀ b ∈ blocks, ∃ opt, b.Whole opt

def bodySize (optionType length : UInt8) : Nat :=
  if optionType = 3 then 30 else if optionType = 5 ∨ optionType = 7 then 6 else length.toNat * 8 - 2

theorem bodySize_of_not_mem (h : optionType ∉ [3, 5, 7]) (length : UInt8) :
    bodySize optionType length = length.toNat * 8 - 2 := by
  simp only [mem_cons, not_mem_nil, or_false, not_or] at h
  simp [bodySize, h]

theorem reads_u8 : Reads u8 1 fun _ => True := reads_array.bind fun _ => .pure trivial

theorem reads_u16 : Reads u16 2 fun _ => True := reads_array.bind fun _ => .pure trivial

theorem reads_u32 : Reads u32 4 fun _ => True := reads_array.bind fun _ => .pure trivial

theorem reads_vec {n : Nat} : Reads (vec n) n fun _ => True :=
  reads_array.bind fun _ => .pure trivial

theorem reads_fromBody {length : UInt8} (hpos : 8 ≤ length.toNat * 8) :
    Reads (fromBody optionType length) (bodySize optionType length) (·.code = optionType) := by
  have hlink {opt : _ → IcmpV6Option} (hcode : ∀ addr, (opt addr).code = optionType) :
      Reads (do let addr ← array 6; let _ ← vec (length.toNat * 8 - 2 - 6); return opt addr)
        (length.toNat * 8 - 2) (·.code = optionType) :=
    Reads.cast (reads_array.bind fun addr => reads_vec.bind fun _ => .pure (hcode addr)) (by omega)
  have hword {opt : UInt16 → UInt32 → IcmpV6Option} (hcode : ∀ x y, (opt x y).code = optionType) :
      Reads (return opt (← u16) (← u32)) 6 (·.code = optionType) :=
    reads_u16.bind fun x => reads_u32.bind fun y => .pure (hcode x y)
  unfold fromBody
  split
  · rw [bodySize_of_not_mem (by decide)]
    exact hlink fun _ => rfl
  · rw [bodySize_of_not_mem (by decide)]
    exact hlink fun _ => rfl
  · exact Reads.cast (reads_u8.bind fun _ => reads_u8.bind fun _ => reads_u32.bind
      fun _ => reads_u32.bind fun _ =>
      reads_u32.bind fun _ => reads_array.bind fun _ => .pure rfl) rfl
  · exact Reads.cast (hword fun _ _ => rfl) rfl
  · exact Reads.cast (hword fun _ _ => rfl) rfl
  · rw [bodySize_of_not_mem (by decide)]
    refine Reads.cast (reads_u8.bind fun _ => reads_u8.bind fun _ => reads_u32.bind fun _ =>
      reads_vec.bind fun _ => .pure rfl) ?_
    omega
  · rw [bodySize_of_not_mem (by decide)]
    refine Reads.cast (reads_u16.bind fun _ => reads_u32.bind fun _ => reads_vec.bind
      fun _ => .pure rfl) ?_
    omega
  · rw [bodySize_of_not_mem (by grind)]
    exact Reads.bind (m := 0) reads_vec fun _ => .pure rfl

theorem Block.pos : 8 ≤ b.length.toNat * 8 := by
  have := b.size
  omega

/-- The sizes of a type that are read as they are framed. -/
def Block.Fits : Prop :=
  (b.type = 3 → b.length = 4) ∧ (b.type = 5 ∨ b.type = 7 → b.length = 1)

theorem Block.fits_iff : b.Fits ↔ bodySize b.type b.length = b.body.length := by
  have hsize := b.size
  have hlength (n : UInt8) : b.length = n ↔ b.length.toNat = n.toNat := UInt8.toNat_inj.symm
  rw [Block.Fits, bodySize, hlength, hlength]
  split_ifs with h3 h57
  · simp [h3]
    omega
  · simp [h3, h57]
    omega
  · simp [h3, h57]
    omega

theorem Block.exists_whole_iff : (∃ opt, b.Whole opt) ↔ b.Fits := by
  rw [b.fits_iff]
  constructor
  · rintro ⟨opt,-,h⟩
    -- with enough bytes behind it, what is left over tells how much was taken
    have hlong : bodySize b.type b.length ≤ (b.body ++ replicate 30 0).length := by
      have := b.pos
      have := b.size
      simp only [bodySize, length_append, length_replicate]
      split_ifs <;> omega
    obtain ⟨opt',-,hread⟩ :=
      reads_fromBody b.pos ((b.body ++ replicate 30 0).take _) (length_take_of_le hlong)
    have hrest := hread ((b.body ++ replicate 30 0).drop (bodySize b.type b.length))
    rw [take_append_drop, ← fromReader_run] at hrest
    have hlen := congrArg (Option.map fun x => x.2.length) ((h _).symm.trans hrest)
    simp only [Option.map_some, length_drop, length_append, length_replicate,
      Option.some.injEq] at hlen hlong
    omega
  · intro h
    obtain ⟨opt,hcode,hread⟩ := reads_fromBody b.pos b.body h.symm
    exact ⟨opt,hcode,fun rest => (fromReader_run _ _ _).trans (hread rest)⟩

/-- The options of a block are read as they are framed exactly if those of fixed size have this
size. -/
theorem framed_iff (blocks : List Block) : Framed blocks ↔ ∀ b ∈ blocks, b.Fits := by
  constructor
  · exact fun h b hb => b.exists_whole_iff.mp (h.2 b hb)
  · intro h
    have hwhole : ∀ b ∈ blocks, ∃ opt, b.Whole opt := fun b hb => b.exists_whole_iff.mpr (h b hb)
    choose! opt hopt using hwhole
    refine ⟨?_,fun b hb => ⟨opt b,hopt b hb⟩⟩
    rw [readIcmpv6Options_flatMap Block.bytes (fun _ => cons_ne_nil _ _) fun b hb => (hopt b hb).2]
    refine (((perm_insertionSort _ _).trans (reverse_perm _)).map code).trans (.of_eq ?_)
    rw [map_map]
    exact map_congr_left fun b hb => (hopt b hb).1

theorem framed_fails : ¬∀ blocks, Framed blocks := by
  intro h
  let long : Block := ⟨5,2,[0, 0, 0, 0, 5, 220, 1, 1, 0, 0, 0, 0, 0, 0],rfl⟩
  exact absurd (h [long]).1.length_eq (by decide)

namespace IcmpV6Option

def length : IcmpV6Option → UInt8
  | sourceLinkLayerAddress length _ | targetLinkLayerAddress length _ | prefixInformation length ..
  | mtu length .. | advertisementInterval length .. | routeInformation length ..
  | recursiveDNSServer length ..
  | unknown _ length _ => length

def Sized : Prop := opt.toWriter.length = opt.length.toNat * 8

/-- `Unknown` with a code that the reader has a layout for. -/
def disguised : IcmpV6Option → Bool
  | unknown code .. => code ∈ [1, 2, 3, 5, 7, 24, 25]
  | _ => false

theorem fromReader_toWriter {opt : IcmpV6Option} (h : opt.Sized) (hd : opt.disguised = false)
    (rest : Bytes) :
    fromReader.run (opt.toWriter ++ rest) = some (opt, rest) := by
  have hskip {n : Nat} (hn : n = 0) : (vec n).run rest = some ([], rest) :=
    @vec_run _ [] hn.symm rest
  cases opt with
  | unknown code length data =>
    simp only [Sized, toWriter, IcmpV6Option.length, length_cons] at h
    simp only [disguised, decide_eq_false_iff_not, mem_cons, not_or] at hd
    have hdata : (vec (length.toNat * 8 - 2)).run (data ++ rest) = some (data, rest) :=
      vec_run (by omega) rest
    simp [toWriter, fromReader_run, fromBody, hd, hdata]
  | _ =>
    simp only [Sized, toWriter, IcmpV6Option.length, toBeBytes16, toBeBytes32, length_cons,
      length_append, length_nil, Vector.length_toList] at h
    simp (disch := omega) [toWriter, fromReader_run, fromBody, u8_run, u16_run, u32_run, array_run,
      vec_run, hskip]

theorem yields_fromReader : Yields fromReader (·.disguised = false) := by
  refine .bind fun optionType => .bind fun length => ?_
  unfold fromBody
  split
  case h_8 =>
    refine .bind fun data => .pure ?_
    simp [disguised]
    grind
  all_goals
    repeat refine .bind fun _ => ?_
    exact .pure rfl

end IcmpV6Option

theorem filter_insertionSort (l : List IcmpV6Option) (c : UInt8) :
    (l.insertionSort ByCode).filter (·.code = c) = l.filter (·.code = c) := by
  have hsorted : (l.filter (·.code = c)).Pairwise ByCode :=
    pairwise_of_forall_mem_list fun a ha b hb => by
      rw [ByCode, of_decide_eq_true (mem_filter.mp ha).2, of_decide_eq_true (mem_filter.mp hb).2]
      exact UInt8.le_refl c
  have hsub := (sublist_insertionSort hsorted filter_sublist).filter (·.code = c)
  rw [filter_filter] at hsub
  simp only [Bool.and_self] at hsub
  exact (hsub.eq_of_length ((perm_insertionSort ByCode l).filter _).length_eq.symm).symm

theorem eq_of_filter_code {l l' : List IcmpV6Option} (hl : l.Pairwise ByCode)
    (hl' : l'.Pairwise ByCode) (h : ∀ c, l.filter (·.code = c) = l'.filter (·.code = c)) :
    l = l' := by
  induction l generalizing l' with
  | nil =>
    cases l' with
    | nil => rfl
    | cons b l' => simpa using h b.code
  | cons a l ih =>
    cases l' with
    | nil => simpa using h a.code
    | cons b l' =>
      have hmem (o : IcmpV6Option) : o ∈ a :: l ↔ o ∈ b :: l' := by
        simpa using congrArg (o ∈ ·) (h o.code)
      have hcode : a.code = b.code := by
        apply UInt8.le_antisymm
        · rcases mem_cons.mp ((hmem b).mpr mem_cons_self) with rfl | hb
          · exact UInt8.le_refl _
          · exact rel_of_pairwise_cons hl hb
        · rcases mem_cons.mp ((hmem a).mp mem_cons_self) with rfl | ha
          · exact UInt8.le_refl _
          · exact rel_of_pairwise_cons hl' ha
      have hhead := h a.code
      rw [filter_cons_of_pos (by simp), filter_cons_of_pos (by simp [hcode])] at hhead
      obtain rfl := (cons.inj hhead).1
      rw [ih hl.of_cons hl'.of_cons fun c => ?_]
      by_cases hc : a.code = c
      · simpa [hc] using h c
      · simpa [hc] using h c

theorem not_disguised_of_mem_readFrom {input : Bytes} {opts : List IcmpV6Option}
    (h : ∀ opt ∈ opts, opt.disguised = false) :
    ∀ opt ∈ readFrom fuel input opts, opt.disguised = false := by
  induction fuel generalizing input opts with
  | zero => exact h
  | succ fuel ih =>
    unfold readFrom
    split
    · exact h
    · split
      · rename_i o rest hread
        refine ih fun opt hopt => ?_
        rcases (mem_orderedInsert ByCode).mp hopt with rfl | hold
        · exact yields_fromReader _ _ _ hread
        · exact h opt hold
      · exact h

/-- Sorted options of the right size are read back exactly if none is disguised and those of each
code read the same backwards. -/
theorem read_write_iff {opts : List IcmpV6Option} (hsorted : opts.Pairwise ByCode)
    (hsized : ∀ opt ∈ opts, opt.Sized) : readIcmpv6Options (writeIcmpv6Options opts) = opts ↔
      (∀ opt ∈ opts, opt.disguised = false) ∧
        ∀ c, (opts.filter (·.code = c)).reverse = opts.filter (·.code = c) := by
  have hne (opt : IcmpV6Option) : opt.toWriter ≠ [] := by cases opt <;> exact cons_ne_nil _ _
  have hread (hd : ∀ opt ∈ opts, opt.disguised = false) :
      readIcmpv6Options (writeIcmpv6Options opts) = opts.reverse.insertionSort ByCode := by
    have hmap :=
      readIcmpv6Options_flatMap toWriter hne fun opt hopt => fromReader_toWriter (hsized opt hopt)
        (hd opt hopt)
    rwa [map_id'] at hmap
  have hfilter (c : UInt8) : (opts.reverse.insertionSort ByCode).filter (·.code = c) =
      (opts.filter (·.code = c)).reverse := by
    rw [filter_insertionSort, filter_reverse]
  constructor
  · intro h
    have hd : ∀ opt ∈ opts, opt.disguised = false := by
      rw [← h]
      exact not_disguised_of_mem_readFrom fun _ hno => absurd hno not_mem_nil
    refine ⟨hd,fun c => ?_⟩
    rw [← hfilter, ← hread hd, h]
  · rintro ⟨hd,hback⟩
    rw [hread hd]
    exact eq_of_filter_code (pairwise_insertionSort _ _) hsorted
      fun c => (hfilter c).trans (hback c)

def servers (last : UInt8) : List IcmpV6Option :=
  [recursiveDNSServer 3 0 1800 (replicate 15 0 ++ [1]),
    recursiveDNSServer 3 0 1800 (replicate 15 0 ++ [last])]

theorem read_write_servers : readIcmpv6Options (writeIcmpv6Options (servers 1)) = servers 1 :=
  (read_write_iff (by decide) (by unfold Sized; decide)).mpr
    ⟨by decide,fun c => by by_cases hc : 25 = c <;> simp [servers, code, hc]⟩

theorem read_write_fails : ¬∀ opts : List IcmpV6Option, opts.Pairwise ByCode →
    (∀ opt ∈ opts, opt.Sized) →
    readIcmpv6Options (writeIcmpv6Options opts) = opts :=
  fun h => absurd (h (servers 2) (by decide) (by unfold Sized; decide)) (by decide)

end Landscape.Icmpv6
