import Carpool.Base64url
import Mathlib.Logic.Function.Basic

/-!
# Base64 read back

Reading accepts exactly what writing produces, so octets have one written form.
-/

namespace Carpool

namespace Base64url

/-! ## Symbols -/

private theorem symbolTable : ∀ sextet : Fin 64, sextet? (symbol sextet) = some sextet.val := by
  decide

theorem sextet?_symbol {sextet : Nat} (small : sextet < 64) :
    sextet? (symbol sextet) = some sextet :=
  symbolTable ⟨sextet, small⟩

set_option maxRecDepth 4000 in
private theorem sextetTable : ∀ code : Fin 256, ∀ sextet ∈ sextet? (UInt8.ofNat code),
    sextet < 64 ∧ symbol sextet = UInt8.ofNat code ∧ code.val < 128 ∧ code.val ≠ 46 := by
  decide

theorem of_sextet? {octet : UInt8} {sextet : Nat} (read : sextet? octet = some sextet) :
    sextet < 64 ∧ symbol sextet = octet ∧ octet.toNat < 128 ∧ octet ≠ 46 := by
  have entry := sextetTable ⟨octet.toNat, octet.toNat_lt⟩ sextet (by simpa using read)
  rw [UInt8.ofNat_toNat] at entry
  obtain ⟨small, same, ascii, other⟩ := entry
  exact ⟨small, same, ascii, fun dot => other (congrArg UInt8.toNat dot)⟩

theorem mapM_sextet?_eq_some {symbols : Octets} {sextets : List Nat} :
    symbols.mapM sextet? = some sextets ↔
      (∀ sextet ∈ sextets, sextet < 64) ∧ symbols = sextets.map symbol := by
  induction symbols generalizing sextets with
  | nil => cases sextets <;> simp
  | cons first rest ih =>
      rw [List.mapM_cons]
      cases sextets with
      | nil => simp [Option.bind_eq_bind, Option.bind_eq_some_iff]
      | cons sextet sextets =>
          simp only [Option.bind_eq_bind, Option.bind_eq_some_iff, Option.pure_def,
            Option.some.injEq, List.cons.injEq, List.mem_cons, forall_eq_or_imp, List.map_cons]
          constructor
          · rintro ⟨_, read, _, more, rfl, rfl⟩
            obtain ⟨small, same, -⟩ := of_sextet? read
            obtain ⟨allSmall, allSame⟩ := ih.mp more
            exact ⟨⟨small, allSmall⟩, same.symm, allSame⟩
          · rintro ⟨⟨small, allSmall⟩, rfl, allSame⟩
            exact ⟨_, sextet?_symbol small, _, ih.mpr ⟨allSmall, allSame⟩, rfl, rfl⟩

/-! ## Groups of four sextets -/

/-- The sextets of octets, those of the last group filled up with zero bits. -/
def sextets : Octets → List Nat
  | [] => []
  | [first] => [first.toNat / 4, first.toNat % 4 * 16]
  | [first, second] =>
      [first.toNat / 4, first.toNat % 4 * 16 + second.toNat / 16, second.toNat % 16 * 4]
  | first :: second :: third :: rest =>
      first.toNat / 4 :: (first.toNat % 4 * 16 + second.toNat / 16)
        :: (second.toNat % 16 * 4 + third.toNat / 64) :: third.toNat % 64 :: sextets rest

theorem encode_eq_map (octets : Octets) : encode octets = (sextets octets).map symbol := by
  fun_induction sextets octets with
  | case1 => rfl
  | case2 first => rfl
  | case3 first second => rfl
  | case4 first second third rest ih => simp [encode, ih]

theorem sextets_lt (octets : Octets) : ∀ sextet ∈ sextets octets, sextet < 64 := by
  fun_induction sextets octets with
  | case1 => simp
  | case2 first =>
      have := first.toNat_lt
      simp only [List.mem_cons, List.not_mem_nil, or_false, forall_eq_or_imp, forall_eq]
      omega
  | case3 first second =>
      have := first.toNat_lt
      have := second.toNat_lt
      simp only [List.mem_cons, List.not_mem_nil, or_false, forall_eq_or_imp, forall_eq]
      omega
  | case4 first second third rest ih =>
      have := first.toNat_lt
      have := second.toNat_lt
      have := third.toNat_lt
      simp only [List.mem_cons, forall_eq_or_imp]
      exact ⟨by omega, by omega, by omega, by omega, ih⟩

theorem ofNat_eq {value : Nat} (octet : UInt8) (same : value = octet.toNat) :
    UInt8.ofNat value = octet := by
  rw [same, UInt8.ofNat_toNat]

theorem join_sextets (octets : Octets) : join (sextets octets) = some octets := by
  fun_induction sextets octets with
  | case1 => rfl
  | case2 first =>
      rw [join, if_pos (by omega), ofNat_eq first (by omega)]
  | case3 first second =>
      have := second.toNat_lt
      rw [join, if_pos (by omega), ofNat_eq first (by omega),
        ofNat_eq second (by omega)]
  | case4 first second third rest ih =>
      have := second.toNat_lt
      have := third.toNat_lt
      rw [join, ih, Option.map_some, ofNat_eq first (by omega),
        ofNat_eq second (by omega), ofNat_eq third (by omega)]

/-- Sextets that join are those of the octets into which they join. -/
theorem eq_sextets_of_join {given : List Nat} {octets : Octets}
    (small : ∀ sextet ∈ given, sextet < 64) (joined : join given = some octets) :
    given = sextets octets := by
  fun_induction join given generalizing octets with
  | case1 =>
      obtain rfl := Option.some.inj joined
      rfl
  | case2 first => contradiction
  | case3 first second filled =>
      obtain rfl := Option.some.inj joined
      simp only [List.mem_cons, List.not_mem_nil, or_false, forall_eq_or_imp, forall_eq] at small
      rw [sextets, UInt8.toNat_ofNat_of_lt' (by omega : _ < 256)]
      simp only [List.cons.injEq, and_true]
      omega
  | case4 first second unfilled => contradiction
  | case5 first second third filled =>
      obtain rfl := Option.some.inj joined
      simp only [List.mem_cons, List.not_mem_nil, or_false, forall_eq_or_imp, forall_eq] at small
      rw [sextets, UInt8.toNat_ofNat_of_lt' (by omega : _ < 256),
        UInt8.toNat_ofNat_of_lt' (by omega : _ < 256)]
      simp only [List.cons.injEq, and_true]
      omega
  | case6 first second third unfilled => contradiction
  | case7 first second third fourth rest ih =>
      obtain ⟨more, joinedRest, rfl⟩ := Option.map_eq_some_iff.mp joined
      simp only [List.mem_cons, forall_eq_or_imp] at small
      obtain ⟨_, _, _, _, allSmall⟩ := small
      rw [sextets, UInt8.toNat_ofNat_of_lt' (by omega : _ < 256),
        UInt8.toNat_ofNat_of_lt' (by omega : _ < 256),
        UInt8.toNat_ofNat_of_lt' (by omega : _ < 256), ← ih allSmall joinedRest]
      simp only [List.cons.injEq, and_true]
      omega

/-! ## The written form -/

theorem decode_eq_some_iff {symbols octets : Octets} :
    decode symbols = some octets ↔ symbols = encode octets := by
  rw [decode, Option.bind_eq_some_iff]
  constructor
  · rintro ⟨given, read, joined⟩
    obtain ⟨small, rfl⟩ := mapM_sextet?_eq_some.mp read
    rw [encode_eq_map, eq_sextets_of_join small joined]
  · rintro rfl
    refine ⟨sextets octets, ?_, join_sextets octets⟩
    exact mapM_sextet?_eq_some.mpr ⟨sextets_lt octets, encode_eq_map octets⟩

theorem decode_encode (octets : Octets) : decode (encode octets) = some octets :=
  decode_eq_some_iff.mpr rfl

theorem encode_injective : Function.Injective encode := by
  intro first second same
  have read := decode_encode first
  rw [same, decode_encode] at read
  exact (Option.some.inj read).symm

/-- What is written is plain text, and without a dot. -/
theorem of_mem_encode {octets : Octets} {symbol : UInt8} (member : symbol ∈ encode octets) :
    symbol.toNat < 128 ∧ symbol ≠ 46 := by
  rw [encode_eq_map] at member
  obtain ⟨sextet, present, rfl⟩ := List.mem_map.mp member
  exact (of_sextet? (sextet?_symbol (sextets_lt octets sextet present))).2.2

end Base64url

end Carpool
