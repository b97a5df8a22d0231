/-
  NimbusIo.Wire

  What the services of a node exchange and how a handler fails.  A message
  is a JSON control dictionary followed by body frames (spec §6.1); a
  handler is a computation in `PyM σ = EStateM PyError σ`, so that, as in
  Python, an exception keeps every mutation made before it was raised.

  `PyDict` is a Python `dict` as the list of its items.  Every dictionary
  the sources build (dict displays, `active-requests`, `replies`) is
  written with `set`, which replaces an existing key in place and appends a
  new one, so keys stay distinct and `get?` reads the one value stored.
-/
import Mathlib.Data.List.GetD
import Mathlib.Data.Nat.Digits
import Mathlib.Tactic.IntervalCases

namespace NimbusIo

/-- Python 2 byte strings (`str`): value-file payloads, digests, hashes. -/
abbrev Bytes := List UInt8

-- ============================================================================
-- JSON values
-- ============================================================================

/-- The JSON values that appear in control dictionaries. -/
inductive Value where
  | none
  | bool (b : Bool)
  | int (n : Int)
  | str (s : String)
  | list (vs : List Value)
  deriving Repr

mutual
/-- Structural equality of values (a nested inductive gets no derived instance). -/
def Value.decEq : (a b : Value) → Decidable (a = b)
  | .none, .none => isTrue rfl
  | .bool a, .bool b => if h : a = b then isTrue (h ▸ rfl) else isFalse (by rintro ⟨⟩; exact h rfl)
  | .int a, .int b => if h : a = b then isTrue (h ▸ rfl) else isFalse (by rintro ⟨⟩; exact h rfl)
  | .str a, .str b => if h : a = b then isTrue (h ▸ rfl) else isFalse (by rintro ⟨⟩; exact h rfl)
  | .list as, .list bs =>
    match Value.decEqList as bs with
    | isTrue h => isTrue (h ▸ rfl)
    | isFalse h => isFalse (by rintro ⟨⟩; exact h rfl)
  | .none, .bool _ | .none, .int _ | .none, .str _ | .none, .list _
  | .bool _, .none | .bool _, .int _ | .bool _, .str _ | .bool _, .list _
  | .int _, .none | .int _, .bool _ | .int _, .str _ | .int _, .list _
  | .str _, .none | .str _, .bool _ | .str _, .int _ | .str _, .list _
  | .list _, .none | .list _, .bool _ | .list _, .int _ | .list _, .str _ =>
    isFalse (by rintro ⟨⟩)
def Value.decEqList : (as bs : List Value) → Decidable (as = bs)
  | [], [] => isTrue rfl
  | a :: as, b :: bs =>
    match Value.decEq a b, Value.decEqList as bs with
    | isTrue h, isTrue h' => isTrue (h ▸ h' ▸ rfl)
    | isFalse h, _ => isFalse (by rintro ⟨⟩; exact h rfl)
    | _, isFalse h' => isFalse (by rintro ⟨⟩; exact h' rfl)
  | [], _ :: _ | _ :: _, [] => isFalse (by rintro ⟨⟩)
end

instance : DecidableEq Value := Value.decEq

/-- Python truthiness (`if completed:`). -/
def Value.truthy : Value → Bool
  | .none => false
  | .bool b => b
  | .int n => n != 0
  | .str s => !s.isEmpty
  | .list vs => !vs.isEmpty

mutual
/-- `repr(v)` of a value decoded from a JSON message, whose strings are
    `unicode`: `u'tag'`.  Python also escapes quotes, backslashes and
    unprintable characters, which no tag or node name contains. -/
def Value.pyRepr : Value → String
  | .none => "None"
  | .bool b => if b then "True" else "False"
  | .int n => toString n
  | .str s => "u'" ++ s ++ "'"
  | .list vs => "[" ++ Value.pyReprList vs ++ "]"
/-- The items of a list display, separated by `", "`. -/
def Value.pyReprList : List Value → String
  | [] => ""
  | [v] => Value.pyRepr v
  | v :: vs => Value.pyRepr v ++ ", " ++ Value.pyReprList vs
end

/-- `str(v)` (the `%s` conversion). -/
def Value.pyStr : Value → String
  | .str s => s
  | v => v.pyRepr

-- ============================================================================
-- Dictionaries
-- ============================================================================

/-- A Python `dict`, as the list of its items. -/
abbrev PyDict (κ ν : Type) := List (κ × ν)

namespace PyDict

variable {κ ν : Type} [DecidableEq κ]

/-- `d.get(k)`: the value stored under `k`. -/
def get? (d : PyDict κ ν) (k : κ) : Option ν := d.lookup k

/-- `k in d`. -/
def contains (d : PyDict κ ν) (k : κ) : Bool := (d.get? k).isSome

/-- `d[k] = v`: replace the value of an existing key, else append the item. -/
def set (d : PyDict κ ν) (k : κ) (v : ν) : PyDict κ ν :=
  if d.contains k then d.map (fun p => if p.1 = k then (k, v) else p) else d ++ [(k, v)]

/-- `del d[k]`, and the removal `d.pop(k)` makes. -/
def erase (d : PyDict κ ν) (k : κ) : PyDict κ ν := d.filter (fun p => p.1 ≠ k)

/-- `d.keys()`. -/
def keys (d : PyDict κ ν) : List κ := d.map Prod.fst

theorem get?_cons (k k' : κ) (v : ν) (d : PyDict κ ν) :
    get? ((k', v) :: d) k = if k = k' then some v else get? d k := by
  simp only [get?, List.lookup_cons]
  cases h : k == k' <;> simp_all

@[simp] theorem get?_nil (k : κ) : get? ([] : PyDict κ ν) k = none := rfl

theorem get?_append (d e : PyDict κ ν) (k : κ) :
    get? (d ++ e) k = (get? d k).or (get? e k) := by
  induction d with
  | nil => rfl
  | cons p d ih =>
    obtain ⟨k', v⟩ := p
    simp only [List.cons_append, get?_cons, ih]
    split <;> rfl

theorem get?_eq_none_iff (d : PyDict κ ν) (k : κ) : get? d k = none ↔ k ∉ d.keys := by
  induction d with
  | nil => simp [keys]
  | cons p d ih =>
    obtain ⟨k', v⟩ := p
    rw [get?_cons]
    by_cases h : k = k'
    · subst h
      exact iff_of_false (by rw [if_pos rfl]; exact Option.some_ne_none v)
        fun h => h (List.mem_cons_self _ _)
    · rw [if_neg h, ih]
      simp only [keys, List.map_cons, List.mem_cons, h, false_or]

theorem contains_iff (d : PyDict κ ν) (k : κ) : d.contains k = true ↔ k ∈ d.keys := by
  rw [contains, Option.isSome_iff_ne_none, Ne, get?_eq_none_iff, not_not]

theorem get?_map_replace (d : PyDict κ ν) (k k' : κ) (v : ν) :
    get? (d.map (fun p => if p.1 = k then (k, v) else p)) k' =
      if k' = k then (get? d k').map (fun _ => v) else get? d k' := by
  induction d with
  | nil => split <;> rfl
  | cons p d ih =>
    obtain ⟨k'', w⟩ := p
    rw [List.map_cons]
    by_cases h : k'' = k
    · subst h
      by_cases h' : k' = k''
      · subst h'; rw [if_pos rfl, get?_cons, if_pos rfl, if_pos rfl, get?_cons, if_pos rfl]; rfl
      · rw [if_pos rfl, get?_cons, if_neg h', ih, if_neg h', if_neg h', get?_cons, if_neg h']
    · simp only [if_neg h, get?_cons]
      by_cases h' : k' = k''
      · subst h'; simp [h]
      · simp [h', ih]

@[simp] theorem get?_set_self (d : PyDict κ ν) (k : κ) (v : ν) : get? (d.set k v) k = some v := by
  unfold set
  split
  · rename_i h
    obtain ⟨w, hw⟩ := Option.isSome_iff_exists.mp h
    rw [get?_map_replace, if_pos rfl, hw, Option.map_some']
  · simp_all [get?_append, contains, get?_cons]

@[simp] theorem get?_set_ne (d : PyDict κ ν) {k k' : κ} (v : ν) (h : k' ≠ k) :
    get? (d.set k v) k' = get? d k' := by
  unfold set
  split
  · simp [get?_map_replace, h]
  · simp [get?_append, get?_cons, h]

theorem get?_set (d : PyDict κ ν) (k k' : κ) (v : ν) :
    get? (d.set k v) k' = if k' = k then some v else get? d k' := by
  split
  · subst k'; exact get?_set_self d k v
  · exact get?_set_ne d v ‹_›

@[simp] theorem get?_erase_self (d : PyDict κ ν) (k : κ) : get? (d.erase k) k = none := by
  induction d with
  | nil => rfl
  | cons p d ih =>
    obtain ⟨k', v⟩ := p
    by_cases h : k' = k <;> simp_all [erase, get?_cons, List.filter_cons, eq_comm]

@[simp] theorem get?_erase_ne (d : PyDict κ ν) {k k' : κ} (h : k' ≠ k) :
    get? (d.erase k) k' = get? d k' := by
  induction d with
  | nil => rfl
  | cons p d ih =>
    obtain ⟨k'', v⟩ := p
    by_cases h' : k'' = k
    · subst h'; simp_all [erase, get?_cons, List.filter_cons]
    · by_cases h'' : k' = k'' <;> simp_all [erase, get?_cons, List.filter_cons]

theorem get?_erase (d : PyDict κ ν) (k k' : κ) :
    get? (d.erase k) k' = if k' = k then none else get? d k' := by
  split
  · subst k'; exact get?_erase_self d k
  · exact get?_erase_ne d ‹_›

theorem keys_set (d : PyDict κ ν) (k : κ) (v : ν) :
    (d.set k v).keys = if d.contains k then d.keys else d.keys ++ [k] := by
  unfold set
  split
  · simp only [keys, List.map_map]
    congr 1
    funext p
    by_cases h : p.1 = k <;> simp [h]
  · simp [keys]

theorem nodup_keys_set {d : PyDict κ ν} (h : d.keys.Nodup) (k : κ) (v : ν) :
    (d.set k v).keys.Nodup := by
  rw [keys_set]
  split
  · exact h
  · rename_i hc
    rw [contains_iff] at hc
    exact List.nodup_append.mpr ⟨h, List.nodup_singleton k, by simpa using hc⟩

theorem mem_set {d : PyDict κ ν} {k : κ} {v : ν} {p : κ × ν} (h : p ∈ d.set k v) :
    p ∈ d ∨ p = (k, v) := by
  unfold set at h
  split at h
  · obtain ⟨q, hq, rfl⟩ := List.mem_map.mp h
    by_cases hk : q.1 = k
    · exact .inr (if_pos hk)
    · exact .inl (by rwa [if_neg hk])
  · simpa using h

theorem mem_of_get? {d : PyDict κ ν} {k : κ} {v : ν} (h : d.get? k = some v) : (k, v) ∈ d := by
  induction d with
  | nil => simp at h
  | cons p d ih =>
    obtain ⟨k', v'⟩ := p
    rw [get?_cons] at h
    split at h
    · simp_all
    · exact List.mem_cons_of_mem _ (ih h)

theorem get?_of_mem {d : PyDict κ ν} (hd : d.keys.Nodup) {k : κ} {v : ν} (h : (k, v) ∈ d) :
    d.get? k = some v := by
  induction d with
  | nil => simp at h
  | cons p d ih =>
    obtain ⟨k', v'⟩ := p
    simp only [keys, List.map_cons, List.nodup_cons] at hd
    rw [get?_cons]
    rcases List.mem_cons.mp h with h | h
    · obtain ⟨rfl, rfl⟩ := Prod.mk.inj h
      exact if_pos rfl
    · have hk : k ≠ k' := fun e => hd.1 (e ▸ List.mem_map_of_mem Prod.fst h)
      simp [hk, ih hd.2 h]

theorem keys_erase (d : PyDict κ ν) (k : κ) : (d.erase k).keys = d.keys.filter (· ≠ k) := by
  simp [erase, keys, List.filter_map, Function.comp_def]

theorem length_set (d : PyDict κ ν) (k : κ) (v : ν) :
    (d.set k v).length = if d.contains k then d.length else d.length + 1 := by
  unfold set
  split <;> simp

/-- Setting a key that is not present appends one item. -/
theorem set_of_get?_none {d : PyDict κ ν} {k : κ} (v : ν) (h : get? d k = none) :
    d.set k v = d ++ [(k, v)] := by
  simp [set, contains, h]

theorem nodup_keys_erase {d : PyDict κ ν} (h : d.keys.Nodup) (k : κ) : (d.erase k).keys.Nodup := by
  rw [keys_erase]
  exact h.filter _

/-- The dicts Python code builds from `{}` by `d[k] = v` and `del d[k]`. -/
inductive Built : PyDict κ ν → Prop where
  | empty : Built []
  | set {d : PyDict κ ν} (k : κ) (v : ν) : Built d → Built (d.set k v)
  | erase {d : PyDict κ ν} (k : κ) : Built d → Built (d.erase k)

/-- A dict built by setting and deleting keys holds each key once. -/
theorem Built.nodup_keys {d : PyDict κ ν} (h : Built d) : d.keys.Nodup := by
  induction h with
  | empty => exact List.nodup_nil
  | set k v _ ih => exact nodup_keys_set ih k v
  | erase k _ ih => exact nodup_keys_erase ih k

end PyDict

/-- A JSON control dictionary. -/
abbrev Control := PyDict String Value

-- ============================================================================
-- Bodies and exceptions
-- ============================================================================

/-- The `data` argument of a send: `None`, one `str`, or a list or tuple of
    `str` frames. -/
inductive Body where
  | none
  | bytes (b : Bytes)
  | frames (bs : List Bytes)
  deriving DecidableEq, Repr

/-- The exceptions the modelled code can raise.  `raised` stands for an
    exception of a collaborator outside the sources (a generator, a
    database call). -/
inductive PyError where
  | keyError (key : String)
  | assertionError
  | attributeError (name : String)
  | typeError
  | indexError
  | stopIteration
  | raised (what : String)
  deriving DecidableEq, Repr

/-- Python code over state `σ`: an exception keeps the state it was raised in. -/
abbrev PyM (σ : Type) := EStateM PyError σ

/-- `c[k]` on a control dictionary: `KeyError` when `k` is absent. -/
def Control.item {σ : Type} (c : Control) (k : String) : PyM σ Value :=
  match c.get? k with
  | some v => pure v
  | none => throw (.keyError k)

/-- `assert b`. -/
def pyAssert {σ : Type} (b : Bool) : PyM σ Unit :=
  if b then pure () else throw .assertionError

namespace PyM

variable {σ α β : Type}

@[simp] theorem run_pure (a : α) (s : σ) : (pure a : PyM σ α).run s = .ok a s := rfl

@[simp] theorem run_bind (x : PyM σ α) (f : α → PyM σ β) (s : σ) :
    (x >>= f).run s = match x.run s with
      | .ok a s' => (f a).run s'
      | .error e s' => .error e s' := by
  show EStateM.bind x f s = _
  delta EStateM.run EStateM.bind
  cases x s <;> rfl

@[simp] theorem run_map (g : α → β) (x : PyM σ α) (s : σ) :
    (g <$> x).run s = match x.run s with
      | .ok a s' => .ok (g a) s'
      | .error e s' => .error e s' := by
  show EStateM.map g x s = _
  delta EStateM.run EStateM.map
  cases x s <;> rfl

@[simp] theorem run_throw (e : PyError) (s : σ) : (throw e : PyM σ α).run s = .error e s := rfl

@[simp] theorem run_modify (g : σ → σ) (s : σ) : (modify g : PyM σ Unit).run s = .ok () (g s) := rfl

@[simp] theorem run_get (s : σ) : (get : PyM σ σ).run s = .ok s s := rfl

@[simp] theorem run_set (s s' : σ) : (set s' : PyM σ PUnit).run s = .ok ⟨⟩ s' := rfl

@[simp] theorem run_pyAssert_true (s : σ) : (pyAssert true : PyM σ Unit).run s = .ok () s := rfl

@[simp] theorem run_pyAssert_false (s : σ) :
    (pyAssert false : PyM σ Unit).run s = .error .assertionError s := rfl

@[simp] theorem run_item_of_get? {c : Control} {k : String} {v : Value} (h : c.get? k = some v)
    (s : σ) : (c.item k : PyM σ Value).run s = .ok v s := by
  simp [Control.item, h]

theorem run_item_of_get?_none {c : Control} {k : String} (h : c.get? k = none) (s : σ) :
    (c.item k : PyM σ Value).run s = .error (.keyError k) s := by
  simp [Control.item, h]

/-- A bind that returned: its first part returned, and the rest ran from there. -/
theorem run_bind_ok {x : PyM σ α} {f : α → PyM σ β} {b : β} {s s' : σ}
    (h : (x >>= f).run s = .ok b s') : ∃ a s₁, x.run s = .ok a s₁ ∧ (f a).run s₁ = .ok b s' := by
  rw [run_bind] at h
  split at h
  · exact ⟨_, _, ‹_›, h⟩
  · cases h

end PyM

/-- The state a Python call leaves, whether it returned or raised. -/
def resultState {ε σ α : Type} : EStateM.Result ε σ α → σ
  | .ok _ s => s
  | .error _ s => s

@[simp] theorem resultState_ok {ε σ α : Type} (a : α) (s : σ) :
    resultState (EStateM.Result.ok a s : EStateM.Result ε σ α) = s := rfl

@[simp] theorem resultState_error {ε σ α : Type} (e : ε) (s : σ) :
    resultState (EStateM.Result.error e s : EStateM.Result ε σ α) = s := rfl

-- ============================================================================
-- base64
-- ============================================================================

/-- The standard base64 alphabet of `base64.b64encode`. -/
def b64Alphabet : List Char :=
  "ABCDEFGHIJKLMNOPQRSTUVWXYZabcdefghijklmnopqrstuvwxyz0123456789+/".toList

/-- The base64 digit of a six-bit group. -/
def b64Digit (n : Nat) : Char := b64Alphabet.getD (n % 64) 'A'

/-- Base64 digits of a byte list, three bytes to four digits, `=` padded. -/
def b64Chars : List UInt8 → List Char
  | a :: b :: c :: rest =>
    let n := a.toNat * 65536 + b.toNat * 256 + c.toNat
    b64Digit (n / 262144) :: b64Digit (n / 4096) :: b64Digit (n / 64) :: b64Digit n ::
      b64Chars rest
  | [a, b] =>
    let n := a.toNat * 65536 + b.toNat * 256
    [b64Digit (n / 262144), b64Digit (n / 4096), b64Digit (n / 64), '=']
  | [a] =>
    let n := a.toNat * 65536
    [b64Digit (n / 262144), b64Digit (n / 4096), '=', '=']
  | [] => []

/-- `base64.b64encode`. -/
def b64encode (bs : Bytes) : String := String.mk (b64Chars bs)

theorem b64Digit_mem (n : Nat) : b64Digit n ∈ b64Alphabet := by
  have hlen : b64Alphabet.length = 64 := rfl
  rw [b64Digit, List.getD_eq_getElem _ _ (hlen ▸ Nat.mod_lt n (by decide))]
  exact List.getElem_mem _

/-- Every character `b64encode` writes is a base64 digit or the pad `=`. -/
theorem b64Chars_mem (bs : List UInt8) : ∀ c ∈ b64Chars bs, c ∈ b64Alphabet ∨ c = '=' := by
  induction bs using b64Chars.induct with
  | case1 a b c rest ih =>
    simp only [b64Chars, List.mem_cons]
    rintro x (rfl | rfl | rfl | rfl | hx)
    all_goals first | exact .inl (b64Digit_mem _) | exact ih x hx
  | case2 a b =>
    simp only [b64Chars, List.mem_cons, List.mem_singleton, List.not_mem_nil, or_false]
    rintro x (rfl | rfl | rfl | rfl) <;> first | exact .inl (b64Digit_mem _) | exact .inr rfl
  | case3 a =>
    simp only [b64Chars, List.mem_cons, List.mem_singleton, List.not_mem_nil, or_false]
    rintro x (rfl | rfl | rfl | rfl) <;> first | exact .inl (b64Digit_mem _) | exact .inr rfl
  | case4 => simp [b64Chars]

/-- A base64 encoding never contains `c` when `c` is neither a digit nor `=`. -/
theorem not_mem_b64encode {c : Char} (hc : c ∉ b64Alphabet) (hpad : c ≠ '=') (bs : Bytes) :
    c ∉ (b64encode bs).data := fun h =>
  (b64Chars_mem bs c h).elim hc hpad

-- ============================================================================
-- Numbers in text
-- ============================================================================

/-- Read decimal digits after the value `n`: the inverse of `Nat.toDigits 10`. -/
def readDigits (n : Nat) (ds : List Char) : Nat :=
  ds.foldl (fun n c => 10 * n + (c.toNat - 48)) n

theorem digitChar_toNat {d : Nat} (h : d < 10) : (Nat.digitChar d).toNat - 48 = d := by
  interval_cases d <;> rfl

theorem readDigits_toDigitsCore (f n : Nat) (ds : List Char) (h : n < f) :
    readDigits 0 (Nat.toDigitsCore 10 f n ds) = readDigits n ds := by
  induction f generalizing n ds with
  | zero => omega
  | succ f ih =>
    have hd := digitChar_toNat (Nat.mod_lt n (by decide : 10 > 0))
    simp only [Nat.toDigitsCore]
    split
    · simp only [readDigits, List.foldl_cons, hd]
      congr 1
      omega
    · rw [ih _ _ (by omega)]
      simp only [readDigits, List.foldl_cons, hd]
      congr 1
      omega

/-- The characters `Nat.toDigits` writes in base ten. -/
theorem mem_toDigitsCore {f n : Nat} {ds : List Char} (hds : ∀ c ∈ ds, c ∈ "0123456789".data)
    {c : Char} (hc : c ∈ Nat.toDigitsCore 10 f n ds) : c ∈ "0123456789".data := by
  induction f generalizing n ds with
  | zero => exact hds c hc
  | succ f ih =>
    have hdigit : ∀ d < 10, Nat.digitChar d ∈ "0123456789".data := by decide
    have hcons := List.forall_mem_cons.mpr ⟨hdigit _ (Nat.mod_lt n (by decide)), hds⟩
    simp only [Nat.toDigitsCore] at hc
    split at hc
    · exact hcons c hc
    · exact ih hcons hc

/-- `"%s" % n` tells numbers apart. -/
theorem toString_nat_injective : Function.Injective (toString : Nat → String) := by
  intro n m h
  have := congrArg (fun s : String => readDigits 0 s.data) h
  simpa [toString, Nat.repr, Nat.toDigits, List.asString, readDigits_toDigitsCore] using this

end NimbusIo
