import Mathlib.Data.List.Basic

/-!
# The gRPC variable of a protocol's network

`Id::dex_node_grpc_var` (`market-data-feeder/src/task/id.rs`) names the environment variable
that holds the gRPC address of the node of a protocol's DEX network: it puts `_` in front of
every ASCII uppercase letter after the first byte, uppercases, turns `-` into `_` and appends
`__NODE_GRPC`.

Rust strings are UTF-8 and are indexed by byte. A string is its list of characters here, and
`&s[i..]`, `str::find` and `String::insert` work on byte offsets as Rust's do: slicing and
inserting at an offset that is not a character boundary is a panic, `none`. `Char.isUpper`
and `Char.toUpper` are exactly Rust's `is_ascii_uppercase` and `to_ascii_uppercase`.

Results:
1. `separatorStep_decreases`: every iteration of the `while let` shrinks the bytes left
   after `search_index`, though the string grows, so the loop terminates.
2. `insertSeparators_append`: once `search_index` sits at a boundary, the loop puts `_` in
   front of every ASCII uppercase letter after it, and never panics.
3. `dexNodeGrpcVar_ascii_first`: for a network whose first character is ASCII, the variable
   is the one the spec describes; the empty network is an error.
4. `dexNodeGrpcVar_eq_none_iff`: the function panics exactly when the network starts with a
   character of more than one byte (`dexNodeGrpcVar_panics_on_multibyte_first`).
5. `dexNodeGrpcVar_envVarName`: a network of ASCII letters, digits, `-` and `_` gets a
   variable of ASCII uppercase letters, digits and `_` only, ending in `__NODE_GRPC`.
-/

namespace OraclePriceFeeder.Feeder

/-- The number of bytes `s` takes in UTF-8, `str::len`. -/
def utf8Len : List Char → Nat
  | [] => 0
  | c :: s => c.utf8Size + utf8Len s

namespace Str

/-- `&s[i..]`: `none` where Rust panics, at an offset past the end or inside a character. -/
def sliceFrom : List Char → Nat → Option (List Char)
  | s, 0 => some s
  | [], _ + 1 => none
  | c :: s, i + 1 => if i + 1 < c.utf8Size then none else sliceFrom s (i + 1 - c.utf8Size)

/-- `str::find(p)`: the byte offset of the first character satisfying `p`. -/
def find (p : Char → Bool) : List Char → Option Nat
  | [] => none
  | c :: s => if p c then some 0 else (find p s).map (c.utf8Size + ·)

/-- `String::insert(i, ch)`: `none` where its `is_char_boundary` assertion fails. -/
def insert : List Char → Nat → Char → Option (List Char)
  | s, 0, ch => some (ch :: s)
  | [], _ + 1, _ => none
  | c :: s, i + 1, ch =>
    if i + 1 < c.utf8Size then none else (insert s (i + 1 - c.utf8Size) ch).map (c :: ·)

/-- `str::replace(pattern, replacement)` for a character pattern. -/
def replace (pattern : Char) (replacement : List Char) : List Char → List Char
  | [] => []
  | c :: s => (if c = pattern then replacement else [c]) ++ replace pattern replacement s

end Str

namespace TaskIdLemmas

@[simp] theorem utf8Len_nil : utf8Len [] = 0 := rfl

@[simp] theorem utf8Len_cons (c : Char) (s : List Char) :
    utf8Len (c :: s) = c.utf8Size + utf8Len s := rfl

@[simp] theorem utf8Len_append (s t : List Char) : utf8Len (s ++ t) = utf8Len s + utf8Len t := by
  induction s with
  | nil => simp
  | cons c s ih => simp [ih, Nat.add_assoc]

theorem utf8Size_of_isUpper {c : Char} (upper : c.isUpper = true) : c.utf8Size = 1 := by
  simp only [Char.isUpper, Bool.and_eq_true, decide_eq_true_eq] at upper
  unfold Char.utf8Size
  rw [if_pos (UInt32.le_trans upper.2 (by decide))]

theorem utf8Size_eq_one_iff (c : Char) : c.utf8Size = 1 ↔ c.toNat < 128 := by
  have size := Char.utf8Size_eq c
  unfold Char.utf8Size at size ⊢
  simp only [Char.toNat, UInt32.toNat, UInt32.le_def, BitVec.le_def] at size ⊢
  split_ifs at size ⊢ <;> simp_all <;> omega

theorem sliceFrom_utf8Len {s rest : List Char} {i : Nat} (sliced : Str.sliceFrom s i = some rest) :
    i + utf8Len rest = utf8Len s := by
  induction s generalizing i with
  | nil => cases i <;> simp_all [Str.sliceFrom]
  | cons c s ih =>
    cases i with
    | zero => simp_all [Str.sliceFrom]
    | succ i =>
      simp only [Str.sliceFrom] at sliced
      split_ifs at sliced with inside
      have := ih sliced
      simp only [utf8Len_cons]
      omega

theorem sliceFrom_append (pre suf : List Char) :
    Str.sliceFrom (pre ++ suf) (utf8Len pre) = some suf := by
  induction pre with
  | nil => cases suf <;> rfl
  | cons c pre ih =>
    have positive := c.utf8Size_pos
    obtain ⟨n, size⟩ : ∃ n, c.utf8Size + utf8Len pre = n + 1 := ⟨_, (Nat.succ_pred_eq_of_pos
      (Nat.add_pos_left positive _)).symm⟩
    simp only [List.cons_append, utf8Len_cons, size, Str.sliceFrom]
    rw [if_neg (by omega), show n + 1 - c.utf8Size = utf8Len pre by omega, ih]

theorem find_lt {p : Char → Bool} {s : List Char} {j : Nat} (found : Str.find p s = some j) :
    j < utf8Len s := by
  induction s generalizing j with
  | nil => cases found
  | cons c s ih =>
    have positive := c.utf8Size_pos
    simp only [Str.find] at found
    split_ifs at found
    · cases found; simp; omega
    · obtain ⟨k, rest, rfl⟩ := Option.map_eq_some'.mp found
      have := ih rest
      simp only [utf8Len_cons]
      omega

theorem find_append_of_none {p : Char → Bool} {u : List Char} (absent : ∀ x ∈ u, p x = false)
    (rest : List Char) : Str.find p (u ++ rest) = (Str.find p rest).map (utf8Len u + ·) := by
  induction u with
  | nil => simp
  | cons c u ih =>
    simp only [List.mem_cons, forall_eq_or_imp] at absent
    rw [List.cons_append, Str.find, if_neg (by simp [absent.1]), ih absent.2, Option.map_map]
    simp [Function.comp_def, Nat.add_assoc]

theorem find_of_none {p : Char → Bool} {s : List Char} (absent : ∀ x ∈ s, p x = false) :
    Str.find p s = none := by
  simpa using find_append_of_none absent []

theorem insert_utf8Len {s grown : List Char} {i : Nat} {ch : Char}
    (inserted : Str.insert s i ch = some grown) : utf8Len grown = utf8Len s + ch.utf8Size := by
  induction s generalizing i grown with
  | nil =>
    cases i with
    | zero => simp only [Str.insert, Option.some.injEq] at inserted; subst inserted; simp
    | succ => cases inserted
  | cons c s ih =>
    cases i with
    | zero => simp only [Str.insert, Option.some.injEq] at inserted; subst inserted; simp; omega
    | succ i =>
      simp only [Str.insert] at inserted
      split_ifs at inserted
      obtain ⟨rest, restInserted, rfl⟩ := Option.map_eq_some'.mp inserted
      simp [ih restInserted, Nat.add_assoc]

theorem insert_append (pre suf : List Char) (ch : Char) :
    Str.insert (pre ++ suf) (utf8Len pre) ch = some (pre ++ ch :: suf) := by
  induction pre with
  | nil => cases suf <;> rfl
  | cons c pre ih =>
    have positive := c.utf8Size_pos
    obtain ⟨n, size⟩ : ∃ n, c.utf8Size + utf8Len pre = n + 1 := ⟨_, (Nat.succ_pred_eq_of_pos
      (Nat.add_pos_left positive _)).symm⟩
    simp only [List.cons_append, utf8Len_cons, size, Str.insert]
    rw [if_neg (by omega), show n + 1 - c.utf8Size = utf8Len pre by omega, ih]
    rfl

theorem replace_eq_map (pattern : Char) (replacement : Char) (s : List Char) :
    Str.replace pattern [replacement] s = s.map fun c => if c = pattern then replacement else c := by
  induction s with
  | nil => rfl
  | cons c s ih => by_cases hc : c = pattern <;> simp [Str.replace, ih, hc]

/-- A list splits at its first ASCII uppercase letter, if it has one. -/
theorem split_at_upper (s : List Char) :
    (∀ x ∈ s, x.isUpper = false) ∨
      ∃ u c v, s = u ++ c :: v ∧ (∀ x ∈ u, x.isUpper = false) ∧ c.isUpper = true := by
  induction s with
  | nil => simp
  | cons c s ih =>
    cases upper : c.isUpper
    · rcases ih with none | ⟨u, d, v, rfl, before, found⟩
      · exact .inl (by simpa [upper] using none)
      · exact .inr ⟨c :: u, d, v, rfl, by simpa [upper] using before, found⟩
    · exact .inr ⟨[], c, s, rfl, by simp, upper⟩

end TaskIdLemmas

open TaskIdLemmas

/-! ## The loop -/

/-- One test of the `while let` of `dex_node_grpc_var`: `none` is a panic, `some none` the
loop's exit, and `some (some (network, searchIndex))` the state of the next iteration, after
the `_` was inserted in front of the letter found. -/
def separatorStep (network : List Char) (searchIndex : Nat) : Option (Option (List Char × Nat)) :=
  (Str.sliceFrom network searchIndex).bind fun rest =>
    match (Str.find Char.isUpper rest).map (searchIndex + ·) with
    | none => some none
    | some index => (Str.insert network index '_').map fun grown => some (grown, index + 2)

/-- Every iteration shrinks the bytes left after `search_index`: the string grows by the one
byte of `_`, and `search_index` moves past it and the letter found. -/
theorem separatorStep_decreases {network grown : List Char} {searchIndex next : Nat}
    (step : separatorStep network searchIndex = some (some (grown, next))) :
    utf8Len grown - next < utf8Len network - searchIndex := by
  obtain ⟨rest, sliced, continues⟩ := Option.bind_eq_some.mp step
  have sliceLen := sliceFrom_utf8Len sliced
  split at continues
  · cases continues
  · next index found =>
    obtain ⟨j, foundAt, rfl⟩ := Option.map_eq_some'.mp found
    obtain ⟨grown', inserted, same⟩ := Option.map_eq_some'.mp continues
    cases same
    have grows := insert_utf8Len inserted
    have within := find_lt foundAt
    simp only [show ('_' : Char).utf8Size = 1 from rfl] at grows
    omega

/-- The `while let` loop of `dex_node_grpc_var`, from `search_index`. -/
def insertSeparators (network : List Char) (searchIndex : Nat) : Option (List Char) :=
  match _step : separatorStep network searchIndex with
  | none => none
  | some none => some network
  | some (some (grown, next)) => insertSeparators grown next
termination_by utf8Len network - searchIndex
decreasing_by exact separatorStep_decreases _step

/-- `VAR_SUFFIX`. -/
def varSuffix : String := "__NODE_GRPC"

/-- `Id::dex_node_grpc_var`; `none` is a panic. -/
def dexNodeGrpcVar (network : String) : Option (Except String String) :=
  if network.data.isEmpty then some (.error "Protocol's network identifier is zero-length!")
  else (insertSeparators network.data 1).map fun separated =>
    .ok ⟨Str.replace '-' ['_'] (separated.map Char.toUpper) ++ varSuffix.data⟩

/-- Modelled from the spec: `_` in front of every ASCII uppercase letter. -/
def underscoreBeforeUppercase : List Char → List Char
  | [] => []
  | c :: s =>
    if c.isUpper then '_' :: c :: underscoreBeforeUppercase s else c :: underscoreBeforeUppercase s

/-- Modelled from the spec: the variable for a network of first character `first`: keep it,
put `_` in front of every later ASCII uppercase letter, ASCII-uppercase the whole, replace
every `-` with `_` and append `__NODE_GRPC`. -/
def nodeGrpcVarName (first : Char) (rest : List Char) : String :=
  ⟨((first :: underscoreBeforeUppercase rest).map Char.toUpper).map
      (fun c => if c = '-' then '_' else c) ++ "__NODE_GRPC".data⟩

namespace TaskIdLemmas

theorem underscoreBeforeUppercase_of_none {u : List Char}
    (absent : ∀ x ∈ u, x.isUpper = false) : underscoreBeforeUppercase u = u := by
  induction u with
  | nil => rfl
  | cons c u ih =>
    simp only [List.mem_cons, forall_eq_or_imp] at absent
    simp [underscoreBeforeUppercase, absent.1, ih absent.2]

theorem underscoreBeforeUppercase_split {u v : List Char} {c : Char}
    (absent : ∀ x ∈ u, x.isUpper = false) (upper : c.isUpper = true) :
    underscoreBeforeUppercase (u ++ c :: v) = u ++ '_' :: c :: underscoreBeforeUppercase v := by
  induction u with
  | nil => simp [underscoreBeforeUppercase, upper]
  | cons d u ih =>
    simp only [List.mem_cons, forall_eq_or_imp] at absent
    simp [underscoreBeforeUppercase, absent.1, ih absent.2]

theorem separatorStep_of_none {pre suf : List Char} (absent : ∀ x ∈ suf, x.isUpper = false) :
    separatorStep (pre ++ suf) (utf8Len pre) = some none := by
  simp [separatorStep, sliceFrom_append, find_of_none absent]

theorem separatorStep_split {pre u v : List Char} {c : Char}
    (absent : ∀ x ∈ u, x.isUpper = false) (upper : c.isUpper = true) :
    separatorStep (pre ++ (u ++ c :: v)) (utf8Len pre) =
      some (some ((pre ++ u ++ ['_', c]) ++ v, utf8Len (pre ++ u ++ ['_', c]))) := by
  have found : Str.find Char.isUpper (u ++ c :: v) = some (utf8Len u) := by
    rw [find_append_of_none absent]
    simp [Str.find, upper]
  simp only [separatorStep, sliceFrom_append, Option.some_bind, found, Option.map_some']
  rw [← List.append_assoc, ← utf8Len_append, insert_append]
  simp [utf8Size_of_isUpper upper, show ('_' : Char).utf8Size = 1 from rfl, Nat.add_assoc]

end TaskIdLemmas

/-- Once `search_index` sits right after `pre`, the loop puts `_` in front of every ASCII
uppercase letter of the rest, and never panics. -/
theorem insertSeparators_append (pre suf : List Char) :
    insertSeparators (pre ++ suf) (utf8Len pre) = some (pre ++ underscoreBeforeUppercase suf) := by
  obtain ⟨n, length⟩ : ∃ n, suf.length = n := ⟨_, rfl⟩
  induction n using Nat.strong_induction_on generalizing pre suf with
  | _ n ih =>
    rcases split_at_upper suf with absent | ⟨u, c, v, rfl, before, upper⟩
    · rw [insertSeparators, underscoreBeforeUppercase_of_none absent]
      split
      · next step => rw [separatorStep_of_none absent] at step; cases step
      · rfl
      · next step => rw [separatorStep_of_none absent] at step; cases step
    · have shorter : v.length < n := by
        simp only [← length, List.length_append, List.length_cons]; omega
      rw [insertSeparators, underscoreBeforeUppercase_split before upper]
      split
      · next step => rw [separatorStep_split before upper] at step; cases step
      · next step => rw [separatorStep_split before upper] at step; cases step
      · next step =>
        rw [separatorStep_split before upper] at step
        cases step
        rw [ih v.length shorter _ v rfl]
        simp

/-! ## The variable -/

theorem dexNodeGrpcVar_of_ascii {c : Char} (rest : List Char) (ascii : c.toNat < 128) :
    dexNodeGrpcVar ⟨c :: rest⟩ = some (.ok (nodeGrpcVarName c rest)) := by
  have first : utf8Len [c] = 1 := by simp [(utf8Size_eq_one_iff c).mpr ascii]
  have loop := insertSeparators_append [c] rest
  rw [first] at loop
  simp only [List.singleton_append] at loop
  simp only [dexNodeGrpcVar, List.isEmpty_cons, Bool.false_eq_true, if_false, loop,
    Option.map_some', replace_eq_map]
  rfl

/-- The empty network is an error; for a network whose first character is ASCII the
variable is the one the spec describes. -/
theorem dexNodeGrpcVar_ascii_first :
    dexNodeGrpcVar "" = some (.error "Protocol's network identifier is zero-length!") ∧
    ∀ (c : Char) (rest : List Char), c.toNat < 128 →
      dexNodeGrpcVar ⟨c :: rest⟩ = some (.ok (nodeGrpcVarName c rest)) :=
  ⟨rfl, fun _ rest ascii => dexNodeGrpcVar_of_ascii rest ascii⟩

example : dexNodeGrpcVar "osmoTestnet" = some (.ok "OSMO_TESTNET__NODE_GRPC") :=
  (dexNodeGrpcVar_of_ascii _ (by decide)).trans rfl

/-- `dex_node_grpc_var` panics exactly when the network starts with a character of more
than one byte: its first slice, `network[1..]`, then falls inside that character. -/
theorem dexNodeGrpcVar_eq_none_iff (network : String) :
    dexNodeGrpcVar network = none ↔ ∃ c rest, network.data = c :: rest ∧ 128 ≤ c.toNat := by
  obtain ⟨data⟩ := network
  cases data with
  | nil => simp [dexNodeGrpcVar]
  | cons c rest =>
    by_cases ascii : c.toNat < 128
    · simp [dexNodeGrpcVar_of_ascii rest ascii, ascii]
    · have wide : 1 < c.utf8Size := by
        have := c.utf8Size_pos
        have := (utf8Size_eq_one_iff c).not.mpr ascii
        omega
      have panics : insertSeparators (c :: rest) 1 = none := by
        rw [insertSeparators]
        split
        · rfl
        · next step => simp [separatorStep, Str.sliceFrom, wide] at step
        · next step => simp [separatorStep, Str.sliceFrom, wide] at step
      simpa [dexNodeGrpcVar, panics] using Nat.not_lt.mp ascii

/-- `network = "é"`: `network[1..]` falls inside the two bytes of `é`, and the function
panics. -/
theorem dexNodeGrpcVar_panics_on_multibyte_first : dexNodeGrpcVar "é" = none := by
  simp only [dexNodeGrpcVar, String.data, List.isEmpty_cons, if_false, Option.map_eq_none']
  rw [insertSeparators]
  rfl

/-! ## What the variable looks like -/

/-- A character of a network identifier as protocols write them: an ASCII letter or digit,
`-` or `_`. -/
def networkChar (c : Char) : Bool :=
  c.isAlphanum || c == '-' || c == '_'

/-- A character of the portable environment variable names: an ASCII uppercase letter or
digit, or `_`. -/
def envVarChar (c : Char) : Bool :=
  c.isUpper || c.isDigit || c == '_'

namespace TaskIdLemmas

theorem networkChar_ascii {c : Char} (named : networkChar c = true) : c.toNat < 128 := by
  simp only [networkChar, Char.isAlphanum, Char.isAlpha, Char.isUpper, Char.isLower,
    Char.isDigit, Bool.or_eq_true, Bool.and_eq_true, decide_eq_true_eq, beq_iff_eq] at named
  rcases named with ((((⟨-, h⟩ | ⟨-, h⟩) | ⟨-, h⟩) | rfl) | rfl)
  all_goals first
    | decide
    | (simp [Char.toNat, UInt32.toNat, UInt32.le_def, BitVec.le_def] at h ⊢; omega)

/-- The last two steps of the variable, uppercasing and `-` to `_`, on each ASCII code. -/
theorem envVarChar_of_ascii : ∀ n, n < 128 → networkChar (Char.ofNat n) = true →
    envVarChar (if (Char.ofNat n).toUpper = '-' then '_' else (Char.ofNat n).toUpper) = true := by
  decide

theorem envVarChar_of_networkChar {c : Char} (named : networkChar c = true) :
    envVarChar (if c.toUpper = '-' then '_' else c.toUpper) = true := by
  have ascii := networkChar_ascii named
  rw [← Char.ofNat_toNat c] at named ⊢
  exact envVarChar_of_ascii c.toNat ascii named

theorem mem_underscoreBeforeUppercase {x : Char} {s : List Char}
    (found : x ∈ underscoreBeforeUppercase s) : x = '_' ∨ x ∈ s := by
  induction s with
  | nil => cases found
  | cons c s ih =>
    unfold underscoreBeforeUppercase at found
    split at found <;> simp only [List.mem_cons] at found ⊢ <;> aesop

end TaskIdLemmas

/-- For every network identifier of ASCII letters, digits, `-` and `_`, `dex_node_grpc_var`
returns, without panicking, a variable of ASCII uppercase letters, digits and `_` only, that
ends in `__NODE_GRPC`. -/
theorem dexNodeGrpcVar_envVarName (network : String) (nonempty : network.data ≠ [])
    (named : ∀ c ∈ network.data, networkChar c = true) :
    ∃ var name, dexNodeGrpcVar network = some (.ok var) ∧ var.data = name ++ varSuffix.data ∧
      ∀ c ∈ var.data, envVarChar c = true := by
  obtain ⟨_ | ⟨first, rest⟩⟩ := network
  · exact absurd rfl nonempty
  have ascii := networkChar_ascii (named first (List.mem_cons_self _ _))
  refine ⟨_, _, dexNodeGrpcVar_of_ascii rest ascii, rfl, fun c found => ?_⟩
  simp only [nodeGrpcVarName, List.map_map, List.mem_append, List.mem_map,
    Function.comp_apply] at found
  rcases found with ⟨x, source, rfl⟩ | suffix
  · rcases List.mem_cons.mp source with rfl | later
    · exact envVarChar_of_networkChar (named x (List.mem_cons_self _ _))
    · rcases mem_underscoreBeforeUppercase later with rfl | original
      · rfl
      · exact envVarChar_of_networkChar (named x (List.mem_cons_of_mem _ original))
  · exact (by decide : ∀ c ∈ "__NODE_GRPC".data, envVarChar c = true) c suffix

/-- `osmoTestnet` is a network identifier of letters, so its variable is well formed. -/
theorem osmoTestnet_envVarName :
    "osmoTestnet".data ≠ [] ∧ (∀ c ∈ "osmoTestnet".data, networkChar c = true) ∧
      ∃ var name, dexNodeGrpcVar "osmoTestnet" = some (.ok var) ∧
        var.data = name ++ varSuffix.data ∧ ∀ c ∈ var.data, envVarChar c = true :=
  ⟨by decide, by decide, dexNodeGrpcVar_envVarName "osmoTestnet" (by decide) (by decide)⟩

end OraclePriceFeeder.Feeder
