import Landscape.Pppoe.Frame

/-! The tags of a discovery packet are read back from the bytes they are sent as. -/
namespace Landscape.Pppoe.PPPoETag
open Slice Checks List

def encoded : PPPoETag → UInt16 × Bytes
  | .endOfList => (0x0000, [])
  | .serviceName data => (0x0101, data)
  | .acName data => (0x0102, data)
  | .hostUniq value => (0x0103, toBeBytes32 value)
  | .acCookie data => (0x0104, data)
  | .vendorSpecific data => (0x0105, data)
  | .credits value => (0x0106, toBeBytes32 value)
  | .metrics data => (0x0107, data)
  | .sequenceNumber value => (0x0108, toBeBytes32 value)
  | .creditScaleFactor value => (0x0109, toBeBytes32 value)
  | .relaySessionId data => (0x0110, data)
  | .hurl data => (0x0111, data)
  | .motm data => (0x0112, data)
  | .pppMaxPayload value => (0x0120, toBeBytes32 value)
  | .ipRouteAdd data => (0x0121, data)
  | .serviceNameError data => (0x0201, data)
  | .acSystemError data => (0x0202, data)
  | .genericError data => (0x0203, data)
  | .other tagType data => (tagType, data)

def decodeOptions (tag : PPPoETag) : Bytes := encode tag.encoded.1 tag.encoded.2

def definedTypes : List Nat := [0x0000, 0x0101, 0x0102, 0x0103, 0x0104, 0x0105, 0x0106, 0x0107,
  0x0108, 0x0109, 0x0110, 0x0111, 0x0112, 0x0120, 0x0121, 0x0201, 0x0202, 0x0203]

def known : PPPoETag → Bool
  | .other _ _ => false
  | _ => true

def Valid (tag : PPPoETag) : Prop :=
  tag.encoded.2.length < 2 ^ 16 ∧ (tag.known = false → tag.encoded.1.toNat ∉ definedTypes)

theorem fromBeBytes16_toBeBytes16 (x : UInt16) : fromBeBytes16 (x >>> 8).toUInt8 x.toUInt8 = x := by
  rw [← UInt16.toBitVec_inj]
  ext i hi
  simp [fromBeBytes16, -UInt16.toUInt16_toUInt8]
  grind

theorem fromBeBytes32_toBeBytes32 (x : UInt32) :
    fromBeBytes32 (x >>> 24).toUInt8 (x >>> 16).toUInt8 (x >>> 8).toUInt8 x.toUInt8 = x := by
  rw [← UInt32.toBitVec_inj]
  ext i hi
  simp [fromBeBytes32, -UInt32.toUInt32_toUInt8]
  grind

theorem be16At_append (pre rest : Bytes) (x : UInt16) :
    be16At (pre ++ (toBeBytes16 x ++ rest)) pre.length = .ok x := by
  have h₀ : index (pre ++ (toBeBytes16 x ++ rest)) pre.length = .ok (x >>> 8).toUInt8 := by
    simp [index, toBeBytes16]
  have h₁ : index (pre ++ (toBeBytes16 x ++ rest)) (pre.length + 1) = .ok x.toUInt8 := by
    simp [index, toBeBytes16]
  rw [be16At, h₀, h₁]
  exact congrArg _ (fromBeBytes16_toBeBytes16 x)

theorem ofU32_toBeBytes32 (tagType : UInt16) (tag : UInt32 → PPPoETag) (x : UInt32) :
    ofU32 tagType tag (toBeBytes32 x) = .ok (tag x) :=
  congrArg (Except.ok ∘ tag) (fromBeBytes32_toBeBytes32 x)

variable {tag : PPPoETag} {tags : List PPPoETag}

theorem decode_encoded (h : tag.Valid) :
    decode tag.encoded.1 tag.encoded.2 = .ok (tag, tag.known) := by
  cases tag with
  | other tagType data =>
    have hno : tagType.toNat ∉ definedTypes := h.2 rfl
    simp only [encoded, decode]
    split
    all_goals first
      | rfl
      | rename_i heq
        exact absurd (by rw [heq]; decide) hno
  | _ => first
    | rfl
    | exact congrArg (fun x => x >>= fun tag => .ok (tag, true)) (ofU32_toBeBytes32 _ _ _)

section
variable (pre rest : Bytes) (tagType : UInt16) {data : Bytes} (h : data.length < 2 ^ 16)
include h

theorem dataAt_encode :
    dataAt (pre ++ (encode tagType data ++ rest)) pre.length data.length.toUInt16 = .ok data := by
  have hlen : data.length.toUInt16.toNat = data.length := Nat.mod_eq_of_lt h
  unfold dataAt
  split
  · rename_i hzero
    rw [hzero] at hlen
    rw [eq_nil_of_length_eq_zero hlen.symm]
    rfl
  · let head := pre ++ toBeBytes16 tagType ++ toBeBytes16 data.length.toUInt16
    have hhead : head.length = pre.length + 4 := by simp [head, toBeBytes16]
    have hsplit : pre ++ (encode tagType data ++ rest) = head ++ data ++ rest :=
      by simp [encode, head]
    have hend : (head ++ data).length = 4 + pre.length + data.length := by
      rw [length_append, hhead]
      omega
    rw [slice, hlen, hsplit, if_pos, take_left' hend, drop_left' hhead]
    rw [length_append, hend]
    omega

/-- A tag is read where it stands, whatever comes before and after it. -/
theorem readAt_encode {r : PPPoETag × Bool} (hr : decode tagType data = .ok r) :
    readAt (pre ++ (encode tagType data ++ rest)) pre.length =
      .ok (some (r.1, if r.2 then some (pre ++ encode tagType data).length else none)) := by
  have htype := be16At_append pre (toBeBytes16 data.length.toUInt16 ++ (data ++ rest)) tagType
  have hlength := be16At_append (pre ++ toBeBytes16 tagType) (data ++ rest) data.length.toUInt16
  have hnext : 4 + pre.length + data.length.toUInt16.toNat =
      (pre ++ encode tagType data).length := by
    have hlen : data.length.toUInt16.toNat = data.length := Nat.mod_eq_of_lt h
    simp [hlen, encode, toBeBytes16]
    omega
  have hsize : (pre ++ encode tagType data).length ≤
    (pre ++ (encode tagType data ++ rest)).length := by simp
  rw [readAt, if_neg (by omega)]
  refine bind_eq_ok.mpr ⟨tagType,by simpa [encode] using htype,?_⟩
  refine bind_eq_ok.mpr ⟨data.length.toUInt16,by simpa [encode, toBeBytes16] using hlength,?_⟩
  dsimp only
  rw [hnext, if_neg (by omega)]
  exact bind_eq_ok.mpr ⟨_,dataAt_encode pre rest tagType h,bind_eq_ok.mpr ⟨_,hr,rfl⟩⟩

end

/-- What the parser gets to: it stops after the first tag of a type it does not know. -/
def upToUnknown : List PPPoETag → List PPPoETag
  | [] => []
  | tag :: tags => if tag.known then tag :: upToUnknown tags else [tag]

theorem scan_readAt (h : ∀ tag ∈ tags, tag.Valid) (pre : Bytes) (fuel : Nat)
    (hfuel : (tags.flatMap decodeOptions).length ≤ fuel) :
    scan (readAt (pre ++ tags.flatMap decodeOptions)) fuel pre.length = .ok (upToUnknown tags) := by
  induction tags generalizing pre fuel with
  | nil =>
    cases fuel with
    | zero => rfl
    | succ fuel => exact bind_eq_ok.mpr ⟨_,readAt_of_end (by simp),rfl⟩
  | cons tag tags ih =>
    have hroom : 4 ≤ tag.decodeOptions.length := by simp [decodeOptions, encode, toBeBytes16]
    rw [flatMap_cons, length_append] at hfuel
    obtain ⟨fuel,rfl⟩ : ∃ k, fuel = k + 1 := ⟨fuel - 1,by omega⟩
    have htag := h tag mem_cons_self
    have hread := readAt_encode pre (tags.flatMap decodeOptions) _ htag.1 (decode_encoded htag)
    rw [flatMap_cons, upToUnknown]
    by_cases hk : tag.known = true
    · have hrest :=
        ih (fun x hx => h x (mem_cons_of_mem _ hx)) (pre ++ tag.decodeOptions) fuel (by omega)
      rw [append_assoc] at hrest
      rw [if_pos hk] at hread ⊢
      exact bind_eq_ok.mpr ⟨_,hread,bind_eq_ok.mpr ⟨_,hrest,rfl⟩⟩
    · rw [if_neg hk] at hread ⊢
      exact bind_eq_ok.mpr ⟨_,hread,rfl⟩

theorem upToUnknown_eq_iff : upToUnknown tags = tags ↔ ∀ tag ∈ tags.dropLast, tag.known = true := by
  induction tags with
  | nil => simp [upToUnknown]
  | cons tag tags ih =>
    cases tags with
    | nil => simp [upToUnknown]
    | cons tag' tags =>
      rw [upToUnknown, dropLast_cons_cons, forall_mem_cons, ← ih]
      by_cases hk : tag.known = true <;> simp [hk]

/-- Tags are read back as they were sent exactly if no tag of an unknown type stands before
another. -/
theorem fromBytes_decodeOptions_iff {tags : List PPPoETag} (h : ∀ tag ∈ tags, tag.Valid) :
    fromBytes (tags.flatMap decodeOptions) = .ok tags ↔ ∀ tag ∈ tags.dropLast,
    tag.known = true := by
  have hscan : fromBytes (tags.flatMap decodeOptions) = .ok (upToUnknown tags) :=
    scan_readAt h [] _ (Nat.le_refl _)
  rw [hscan, Except.ok.injEq, upToUnknown_eq_iff]

theorem fromBytes_decodeOptions_sample :
    fromBytes ([serviceName [], hostUniq 1, other 0x0115 [9]].flatMap decodeOptions) =
      .ok [serviceName [], hostUniq 1, other 0x0115 [9]] :=
  (fromBytes_decodeOptions_iff (by unfold Valid; decide)).mpr (by decide)

/-- A tag of an unknown type hides the Host-Uniq behind it. -/
theorem fromBytes_decodeOptions_fails : ¬∀ tags : List PPPoETag, (∀ tag ∈ tags, tag.Valid) →
    fromBytes (tags.flatMap decodeOptions) = .ok tags := by
  intro h
  exact absurd (h [other 0x0115 [9], hostUniq 1] (by unfold Valid; decide)) (by decide)

end Landscape.Pppoe.PPPoETag
