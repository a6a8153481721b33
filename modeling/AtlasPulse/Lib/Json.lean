import AtlasPulse.Lib.Digits

/-!
# Canonical JSON text

JSON values and the compact text that `json.dumps` writes with sorted keys, in
its ASCII and in its Unicode form. Equal texts come from values that are equal
up to the order of their members (`dumps_inj`).
-/

namespace PyJson

def isNumberChar (c : Char) : Bool := c.isDigit || c = '-' || c = '+' || c = '.' || c = 'e'

/-- The text of a finite float: a number token that no integer has. -/
structure FloatRepr where
  text : List Char
  isToken : text.all isNumberChar = true
  isFloat : text.any (fun c => c = '.' || c = 'e') = true
  deriving DecidableEq

inductive Json
  | null
  | bool (b : Bool)
  | int (n : Int)
  | float (r : FloatRepr)
  | str (s : String)
  | arr (items : List Json)
  | obj (members : List (String × Json))

/-! ## Strings -/

def shortEscape : Char → Option Char
  | '"' => some '"'
  | '\\' => some '\\'
  | '\n' => some 'n'
  | '\r' => some 'r'
  | '\t' => some 't'
  | '\x0c' => some 'f'
  | '\x08' => some 'b'
  | _ => none

def hex4 (n : Nat) : List Char :=
  [(n / 4096 % 16).digitChar, (n / 256 % 16).digitChar, (n / 16 % 16).digitChar, (n % 16).digitChar]

/-- `\u` escapes of a code point: one, or a surrogate pair. -/
def unicodeEscape (n : Nat) : List Char :=
  if n < 0x10000 then '\\' :: 'u' :: hex4 n
  else '\\' :: 'u' :: (hex4 (0xd800 + (n - 0x10000) / 1024) ++ '\\' :: 'u' :: hex4 (0xdc00 + (n - 0x10000) % 1024))

/-- With `ensureAscii`, what lies outside the printable ASCII range is escaped
too. -/
def escapeChar (ensureAscii : Bool) (c : Char) : List Char :=
  match shortEscape c with
  | some k => ['\\', k]
  | none => if c.toNat < 0x20 ∨ ensureAscii ∧ 0x7e < c.toNat then unicodeEscape c.toNat else [c]

theorem shortEscape_inj {c d k : Char} (hc : shortEscape c = some k) (hd : shortEscape d = some k) : c = d := by
  unfold shortEscape at hc hd
  split at hc <;> cases hc <;> split at hd <;> first | rfl | simp at hd

theorem shortEscape_ne {c k : Char} (hc : shortEscape c = some k) : k ≠ 'u' := by
  unfold shortEscape at hc
  split at hc <;> cases hc <;> decide

theorem hexDigit_inj : ∀ a < 16, ∀ b < 16, Nat.digitChar a = Nat.digitChar b → a = b := by decide

theorem hex4_inj {n m : Nat} (hn : n < 0x10000) (hm : m < 0x10000) (h : hex4 n = hex4 m) : n = m := by
  simp only [hex4, List.cons.injEq, and_true] at h
  obtain ⟨h1, h2, h3, h4⟩ := h
  have h1 := hexDigit_inj _ (Nat.mod_lt _ (by decide)) _ (Nat.mod_lt _ (by decide)) h1
  have h2 := hexDigit_inj _ (Nat.mod_lt _ (by decide)) _ (Nat.mod_lt _ (by decide)) h2
  have h3 := hexDigit_inj _ (Nat.mod_lt _ (by decide)) _ (Nat.mod_lt _ (by decide)) h3
  have h4 := hexDigit_inj _ (Nat.mod_lt _ (by decide)) _ (Nat.mod_lt _ (by decide)) h4
  omega

theorem hex4_append_inj {n m : Nat} {s t : List Char} (hn : n < 0x10000) (hm : m < 0x10000)
    (h : hex4 n ++ s = hex4 m ++ t) : n = m ∧ s = t := by
  obtain ⟨h1, h2⟩ := List.append_inj h rfl
  exact ⟨hex4_inj hn hm h1, h2⟩

theorem char_valid (c : Char) : c.toNat < 0xd800 ∨ 0xdfff < c.toNat ∧ c.toNat < 0x110000 := c.valid

theorem unicodeEscape_append_inj {c d : Char} {s t : List Char}
    (h : unicodeEscape c.toNat ++ s = unicodeEscape d.toNat ++ t) : c = d ∧ s = t := by
  have hc := char_valid c
  have hd := char_valid d
  have heq : c.toNat = d.toNat → c = d := fun h => Char.ext (UInt32.ext (by simpa using h))
  unfold unicodeEscape at h
  split at h <;> split at h
  · obtain ⟨hn, hst⟩ := hex4_append_inj (n := c.toNat) (m := d.toNat) (by omega) (by omega) (by simpa using h)
    exact ⟨heq hn, hst⟩
  · obtain ⟨hn, -⟩ := hex4_append_inj (n := c.toNat) (m := 0xd800 + (d.toNat - 0x10000) / 1024) (by omega) (by omega)
      (by simpa using h)
    omega
  · obtain ⟨hn, -⟩ := hex4_append_inj (n := 0xd800 + (c.toNat - 0x10000) / 1024) (m := d.toNat) (by omega) (by omega)
      (by simpa using h)
    omega
  · obtain ⟨hn, h'⟩ := hex4_append_inj (n := 0xd800 + (c.toNat - 0x10000) / 1024)
      (m := 0xd800 + (d.toNat - 0x10000) / 1024) (by omega) (by omega) (by simpa using h)
    obtain ⟨hm, hst⟩ := hex4_append_inj (n := 0xdc00 + (c.toNat - 0x10000) % 1024)
      (m := 0xdc00 + (d.toNat - 0x10000) % 1024) (by omega) (by omega) (by simpa using h')
    exact ⟨heq (by omega), hst⟩

theorem unicodeEscape_eq (n : Nat) : ∃ rest, unicodeEscape n = '\\' :: 'u' :: rest := by
  unfold unicodeEscape
  split <;> exact ⟨_, rfl⟩

/-- One escaped character is read back whatever follows it. -/
theorem escapeChar_append_inj {ensureAscii : Bool} {c d : Char} {s t : List Char}
    (h : escapeChar ensureAscii c ++ s = escapeChar ensureAscii d ++ t) : c = d ∧ s = t := by
  have hraw : ∀ c, shortEscape c = none → c ≠ '\\' := by rintro c hc rfl; cases hc
  unfold escapeChar at h
  cases hc : shortEscape c with
  | some k =>
    cases hd : shortEscape d with
    | some k' =>
      obtain ⟨rfl, rfl⟩ : k = k' ∧ s = t := by simpa [hc, hd] using h
      exact ⟨shortEscape_inj hc hd, rfl⟩
    | none =>
      rw [hc, hd] at h
      simp only at h
      split at h
      · obtain ⟨rest, hrest⟩ := unicodeEscape_eq d.toNat
        rw [hrest] at h
        simp only [List.cons_append, List.cons.injEq] at h
        exact absurd h.2.1 (shortEscape_ne hc)
      · simp only [List.cons_append, List.cons.injEq] at h
        exact absurd h.1.symm (hraw d hd)
  | none =>
    cases hd : shortEscape d with
    | some k' =>
      rw [hc, hd] at h
      simp only at h
      split at h
      · obtain ⟨rest, hrest⟩ := unicodeEscape_eq c.toNat
        rw [hrest] at h
        simp only [List.cons_append, List.cons.injEq] at h
        exact absurd h.2.1.symm (shortEscape_ne hd)
      · simp only [List.cons_append, List.cons.injEq] at h
        exact absurd h.1 (hraw c hc)
    | none =>
      rw [hc, hd] at h
      simp only at h
      split at h <;> split at h
      · exact unicodeEscape_append_inj h
      · obtain ⟨rest, hrest⟩ := unicodeEscape_eq c.toNat
        rw [hrest] at h
        simp only [List.cons_append, List.cons.injEq] at h
        exact absurd h.1.symm (hraw d hd)
      · obtain ⟨rest, hrest⟩ := unicodeEscape_eq d.toNat
        rw [hrest] at h
        simp only [List.cons_append, List.cons.injEq] at h
        exact absurd h.1 (hraw c hc)
      · simpa using h

/-- No escaped character begins with the closing quote. -/
theorem escapeChar_append_ne {ensureAscii : Bool} {c : Char} {s t : List Char} :
    escapeChar ensureAscii c ++ s ≠ '"' :: t := by
  unfold escapeChar
  intro h
  cases hc : shortEscape c with
  | some k => simp [hc] at h
  | none =>
    rw [hc] at h
    simp only at h
    split at h
    · obtain ⟨rest, hrest⟩ := unicodeEscape_eq c.toNat
      rw [hrest] at h
      simp at h
    · simp only [List.cons_append, List.cons.injEq] at h
      rw [h.1] at hc
      cases hc

def writeString (ensureAscii : Bool) (s : String) : List Char := '"' :: (s.toList.flatMap (escapeChar ensureAscii) ++ ['"'])

theorem writeString_append_inj {ensureAscii : Bool} {a b : String} {s t : List Char}
    (h : writeString ensureAscii a ++ s = writeString ensureAscii b ++ t) : a = b ∧ s = t := by
  have key : ∀ (x y : List Char), x.flatMap (escapeChar ensureAscii) ++ '"' :: s =
      y.flatMap (escapeChar ensureAscii) ++ '"' :: t → x = y ∧ s = t := by
    intro x
    induction x with
    | nil =>
      intro y h
      cases y with
      | nil => exact ⟨rfl, by simpa using h⟩
      | cons d y =>
        rw [List.flatMap_cons, List.append_assoc] at h
        exact absurd h.symm escapeChar_append_ne
    | cons c x ih =>
      intro y h
      cases y with
      | nil =>
        rw [List.flatMap_cons, List.append_assoc] at h
        exact absurd h escapeChar_append_ne
      | cons d y =>
        rw [List.flatMap_cons, List.flatMap_cons, List.append_assoc, List.append_assoc] at h
        obtain ⟨rfl, h'⟩ := escapeChar_append_inj h
        obtain ⟨rfl, hst⟩ := ih y h'
        exact ⟨rfl, hst⟩
  obtain ⟨hab, hst⟩ := key a.toList b.toList (by simpa [writeString] using h)
  exact ⟨String.toList_inj.mp hab, hst⟩

/-! ## Values -/

def writeInt : Int → List Char
  | .ofNat n => Digits.decimal n
  | .negSucc n => '-' :: Digits.decimal (n + 1)

mutual

/-- The compact text of a value. -/
def write (ensureAscii : Bool) : Json → List Char
  | .null => "null".toList
  | .bool true => "true".toList
  | .bool false => "false".toList
  | .int n => writeInt n
  | .float r => r.text
  | .str s => writeString ensureAscii s
  | .arr items => '[' :: writeItems ensureAscii true items
  | .obj members => '\x7b' :: writeMembers ensureAscii true members

def writeItems (ensureAscii : Bool) (first : Bool) : List Json → List Char
  | [] => [']']
  | item :: items => (if first then [] else [',']) ++ (write ensureAscii item ++ writeItems ensureAscii false items)

def writeMembers (ensureAscii : Bool) (first : Bool) : List (String × Json) → List Char
  | [] => ['\x7d']
  | (key, value) :: members => (if first then [] else [',']) ++ (writeString ensureAscii key ++
      ':' :: (write ensureAscii value ++ writeMembers ensureAscii false members))

end

/-! ## Reading a text back -/

/-- No number goes on in `s`. -/
def Ends (s : List Char) : Prop := ∀ c ∈ s.head?, ¬ isNumberChar c

theorem ends_nil : Ends [] := by simp [Ends]

theorem ends_cons {c : Char} {s : List Char} (h : isNumberChar c = false) : Ends (c :: s) := by simp [Ends, h]

theorem ends_items {ensureAscii : Bool} (items : List Json) (s : List Char) :
    Ends (writeItems ensureAscii false items ++ s) := by
  cases items <;> exact ends_cons (by decide)

theorem ends_members {ensureAscii : Bool} (members : List (String × Json)) (s : List Char) :
    Ends (writeMembers ensureAscii false members ++ s) := by
  cases members <;> exact ends_cons (by decide)

theorem isNumberChar_of_mem_writeInt {n : Int} {c : Char} (h : c ∈ writeInt n) :
    isNumberChar c ∧ c ≠ '.' ∧ c ≠ 'e' := by
  have hd : ∀ m, ∀ c ∈ Digits.decimal m, isNumberChar c ∧ c ≠ '.' ∧ c ≠ 'e' := by
    intro m c hc
    have := Digits.isDigit_of_mem_decimal hc
    refine ⟨by simp [isNumberChar, this], ?_, ?_⟩ <;> (rintro rfl; exact absurd this (by decide))
  cases n with
  | ofNat n => exact hd n c h
  | negSucc n =>
    rcases List.mem_cons.mp h with rfl | h
    · decide
    · exact hd _ c h

theorem writeInt_inj {n m : Int} (h : writeInt n = writeInt m) : n = m := by
  have hneg : ∀ n m : Nat, Digits.decimal n ≠ '-' :: Digits.decimal m := by
    intro n m h
    have : '-' ∈ Digits.decimal n := by rw [h]; exact List.mem_cons_self
    exact absurd (Digits.isDigit_of_mem_decimal this) (by decide)
  cases n with
  | ofNat n =>
    cases m with
    | ofNat m => rw [Digits.decimal_inj h]
    | negSucc m => exact absurd h (hneg _ _)
  | negSucc n =>
    cases m with
    | ofNat m => exact absurd h.symm (hneg _ _)
    | negSucc m =>
      have := Digits.decimal_inj (List.cons.inj h).2
      rw [Nat.succ.inj this]

/-- Values that begin with the same character are of one kind. -/
def leadKind (c : Char) : Nat :=
  if c = 'n' then 0 else if c = 't' then 1 else if c = 'f' then 2 else if c = '"' then 3 else if c = '[' then 4
  else if c = '\x7b' then 5 else if isNumberChar c then 6 else 7

def kind : Json → Nat
  | .null => 0
  | .bool true => 1
  | .bool false => 2
  | .str _ => 3
  | .arr _ => 4
  | .obj _ => 5
  | .int _ => 6
  | .float _ => 6

theorem leadKind_number {c : Char} (h : isNumberChar c) : leadKind c = 6 := by
  have hne : ∀ d, isNumberChar d = false → c ≠ d := by
    rintro d hd rfl
    rw [h] at hd
    cases hd
  unfold leadKind
  rw [if_neg (hne _ (by decide)), if_neg (hne _ (by decide)), if_neg (hne _ (by decide)), if_neg (hne _ (by decide)),
    if_neg (hne _ (by decide)), if_neg (hne _ (by decide)), if_pos h]

theorem write_lead (ensureAscii : Bool) (a : Json) :
    ∃ c rest, write ensureAscii a = c :: rest ∧ leadKind c = kind a := by
  cases a with
  | null => exact ⟨_, _, rfl, rfl⟩
  | bool b => cases b <;> exact ⟨_, _, rfl, rfl⟩
  | str s => exact ⟨_, _, rfl, rfl⟩
  | arr items => exact ⟨_, _, rfl, rfl⟩
  | obj members => exact ⟨_, _, rfl, rfl⟩
  | int n =>
    cases hw : writeInt n with
    | nil =>
      cases n with
      | ofNat n => exact absurd hw (Digits.decimal_ne_nil n)
      | negSucc n => cases hw
    | cons c rest =>
      exact ⟨c, rest, hw, leadKind_number (isNumberChar_of_mem_writeInt (by rw [hw]; exact List.mem_cons_self)).1⟩
  | float r =>
    obtain ⟨text, ht, hf⟩ := r
    cases text with
    | nil => simp at hf
    | cons c rest => exact ⟨c, rest, rfl, leadKind_number (by simp at ht; exact ht.1)⟩

theorem kind_eq_of_write {ensureAscii : Bool} {a b : Json} {s t : List Char}
    (h : write ensureAscii a ++ s = write ensureAscii b ++ t) : kind a = kind b := by
  obtain ⟨c, rest, hc, hk⟩ := write_lead ensureAscii a
  obtain ⟨d, rest', hd, hk'⟩ := write_lead ensureAscii b
  rw [hc, hd] at h
  rw [← hk, ← hk', (List.cons.inj h).1]

theorem kind_ne_seven (a : Json) : kind a ≠ 7 := by
  cases a with
  | bool b => cases b <;> simp [kind]
  | _ => simp [kind]

theorem writeItems_ne_nil {ensureAscii : Bool} {first : Bool} {item : Json} {items : List Json} {s t : List Char} :
    writeItems ensureAscii first (item :: items) ++ s ≠ ']' :: t := by
  intro h
  cases first with
  | false => simp [writeItems] at h
  | true =>
    obtain ⟨c, rest, hc, hk⟩ := write_lead ensureAscii item
    rw [writeItems, hc] at h
    obtain rfl : c = ']' := (List.cons.inj h).1
    exact kind_ne_seven item hk.symm

theorem writeMembers_ne_nil {ensureAscii : Bool} {first : Bool} {member : String × Json}
    {members : List (String × Json)} {s t : List Char} :
    writeMembers ensureAscii first (member :: members) ++ s ≠ '\x7d' :: t := by
  intro h
  cases first <;> simp [writeMembers, writeString] at h

theorem float_ne_int {r : FloatRepr} {n : Int} : r.text ≠ writeInt n := by
  intro h
  have hf := r.isFloat
  rw [h, List.any_eq_true] at hf
  obtain ⟨c, hc, hce⟩ := hf
  obtain ⟨-, h1, h2⟩ := isNumberChar_of_mem_writeInt hc
  simp [h1, h2] at hce

theorem number_append_inj {a b s t : List Char} (ha : ∀ c ∈ a, isNumberChar c) (hb : ∀ c ∈ b, isNumberChar c)
    (hs : Ends s) (ht : Ends t) (h : a ++ s = b ++ t) : a = b ∧ s = t :=
  Digits.run_append_inj ha hb hs ht h

theorem FloatRepr.chars (r : FloatRepr) : ∀ c ∈ r.text, isNumberChar c := List.all_eq_true.mp r.isToken

theorem writeInt_chars (n : Int) : ∀ c ∈ writeInt n, isNumberChar c := fun _ hc => (isNumberChar_of_mem_writeInt hc).1

mutual

/-- **Reading back.** A value's text is read back from any text in which no
number goes on behind it. -/
theorem write_append_inj {ensureAscii : Bool} : ∀ (a b : Json) {s t : List Char}, Ends s → Ends t →
    write ensureAscii a ++ s = write ensureAscii b ++ t → a = b ∧ s = t
  | .null, b, s, t, _, _, h => by
    have hk := kind_eq_of_write h
    cases b with
    | null => exact ⟨rfl, List.append_cancel_left h⟩
    | bool b => cases b <;> cases hk
    | _ => cases hk
  | .bool true, b, s, t, _, _, h => by
    have hk := kind_eq_of_write h
    cases b with
    | bool b => cases b with
      | true => exact ⟨rfl, List.append_cancel_left h⟩
      | false => cases hk
    | _ => cases hk
  | .bool false, b, s, t, _, _, h => by
    have hk := kind_eq_of_write h
    cases b with
    | bool b => cases b with
      | true => cases hk
      | false => exact ⟨rfl, List.append_cancel_left h⟩
    | _ => cases hk
  | .int n, b, s, t, hs, ht, h => by
    have hk := kind_eq_of_write h
    cases b with
    | int m =>
      obtain ⟨hw, hst⟩ := number_append_inj (writeInt_chars n) (writeInt_chars m) hs ht h
      exact ⟨by rw [writeInt_inj hw], hst⟩
    | float r => exact absurd (number_append_inj (writeInt_chars n) r.chars hs ht h).1.symm float_ne_int
    | bool b => cases b <;> cases hk
    | _ => cases hk
  | .float r, b, s, t, hs, ht, h => by
    have hk := kind_eq_of_write h
    cases b with
    | int m => exact absurd (number_append_inj r.chars (writeInt_chars m) hs ht h).1 float_ne_int
    | float r' =>
      obtain ⟨hw, hst⟩ := number_append_inj r.chars r'.chars hs ht h
      obtain ⟨text, h1, h2⟩ := r
      obtain ⟨text', h1', h2'⟩ := r'
      obtain rfl : text = text' := hw
      exact ⟨rfl, hst⟩
    | bool b => cases b <;> cases hk
    | _ => cases hk
  | .str x, b, s, t, _, _, h => by
    have hk := kind_eq_of_write h
    cases b with
    | str y =>
      obtain ⟨rfl, hst⟩ := writeString_append_inj h
      exact ⟨rfl, hst⟩
    | bool b => cases b <;> cases hk
    | _ => cases hk
  | .arr items, b, s, t, _, _, h => by
    have hk := kind_eq_of_write h
    cases b with
    | arr items' =>
      obtain ⟨rfl, hst⟩ := writeItems_append_inj true items items' (List.cons.inj h).2
      exact ⟨rfl, hst⟩
    | bool b => cases b <;> cases hk
    | _ => cases hk
  | .obj members, b, s, t, _, _, h => by
    have hk := kind_eq_of_write h
    cases b with
    | obj members' =>
      obtain ⟨rfl, hst⟩ := writeMembers_append_inj true members members' (List.cons.inj h).2
      exact ⟨rfl, hst⟩
    | bool b => cases b <;> cases hk
    | _ => cases hk

theorem writeItems_append_inj {ensureAscii : Bool} : ∀ (first : Bool) (a b : List Json) {s t : List Char},
    writeItems ensureAscii first a ++ s = writeItems ensureAscii first b ++ t → a = b ∧ s = t
  | first, [], b, s, t, h => by
    cases b with
    | nil => exact ⟨rfl, List.append_cancel_left h⟩
    | cons item items => exact absurd h.symm writeItems_ne_nil
  | first, item :: items, b, s, t, h => by
    cases b with
    | nil => exact absurd h writeItems_ne_nil
    | cons item' items' =>
      rw [writeItems, writeItems, List.append_assoc, List.append_assoc, List.append_assoc, List.append_assoc] at h
      obtain ⟨rfl, h'⟩ := write_append_inj item item' (ends_items items s) (ends_items items' t)
        (List.append_cancel_left h)
      obtain ⟨rfl, hst⟩ := writeItems_append_inj false items items' h'
      exact ⟨rfl, hst⟩

theorem writeMembers_append_inj {ensureAscii : Bool} : ∀ (first : Bool) (a b : List (String × Json)) {s t : List Char},
    writeMembers ensureAscii first a ++ s = writeMembers ensureAscii first b ++ t → a = b ∧ s = t
  | first, [], b, s, t, h => by
    cases b with
    | nil => exact ⟨rfl, List.append_cancel_left h⟩
    | cons member members => exact absurd h.symm writeMembers_ne_nil
  | first, (key, value) :: members, b, s, t, h => by
    cases b with
    | nil => exact absurd h writeMembers_ne_nil
    | cons member' members' =>
      obtain ⟨key', value'⟩ := member'
      rw [writeMembers, writeMembers, List.append_assoc, List.append_assoc, List.append_assoc, List.append_assoc] at h
      obtain ⟨rfl, h'⟩ := writeString_append_inj (List.append_cancel_left h)
      rw [List.cons_append, List.cons_append, List.append_assoc, List.append_assoc] at h'
      obtain ⟨rfl, h''⟩ := write_append_inj value value' (ends_members members s) (ends_members members' t)
        (List.cons.inj h').2
      obtain ⟨rfl, hst⟩ := writeMembers_append_inj false members members' h''
      exact ⟨rfl, hst⟩

end

theorem write_inj {ensureAscii : Bool} {a b : Json} (h : write ensureAscii a = write ensureAscii b) : a = b :=
  (write_append_inj a b ends_nil ends_nil (by simpa using h)).1

/-! ## Sorted keys -/

mutual

/-- Sort the members of every object by key. -/
def sortKeys : Json → Json
  | .null => .null
  | .bool b => .bool b
  | .int n => .int n
  | .float r => .float r
  | .str s => .str s
  | .arr items => .arr (sortItems items)
  | .obj members => .obj ((sortMembers members).insertionSort fun a b => a.1 ≤ b.1)

def sortItems : List Json → List Json
  | [] => []
  | item :: items => sortKeys item :: sortItems items

def sortMembers : List (String × Json) → List (String × Json)
  | [] => []
  | (key, value) :: members => (key, sortKeys value) :: sortMembers members

end

/-- `json.dumps(value, sort_keys=True, separators=(",", ":"))`. -/
def dumps (ensureAscii : Bool) (value : Json) : String := String.ofList (write ensureAscii (sortKeys value))

/-- **Canonical text.** Equal texts have equal values, up to the order of
members. -/
theorem dumps_inj {ensureAscii : Bool} {a b : Json} (h : dumps ensureAscii a = dumps ensureAscii b) :
    sortKeys a = sortKeys b :=
  write_inj (by simpa [dumps] using congrArg String.toList h)

/-- The value of a member, the first one under the key. -/
def member (key : String) : Json → Option Json
  | .obj members => (members.find? fun m => m.1 = key).map Prod.snd
  | _ => none

theorem find_orderedInsert (key : String) (m : String × Json) (l : List (String × Json)) :
    (l.orderedInsert (fun a b => a.1 ≤ b.1) m).find? (fun m => m.1 = key) =
      if m.1 = key then some m else l.find? fun m => m.1 = key := by
  induction l with
  | nil => by_cases h : m.1 = key <;> simp [h]
  | cons b l ih =>
    rw [List.orderedInsert]
    split
    · by_cases h : m.1 = key <;> simp [h]
    · rename_i hle
      by_cases h : m.1 = key
      · have hb : b.1 ≠ key := by
          rintro rfl
          exact hle (h ▸ String.le_refl _)
        simp [hb, ih, h]
      · simp [List.find?_cons, ih, h]

theorem find_insertionSort (key : String) (l : List (String × Json)) :
    (l.insertionSort fun a b => a.1 ≤ b.1).find? (fun m => m.1 = key) = l.find? fun m => m.1 = key := by
  induction l with
  | nil => rfl
  | cons m l ih =>
    rw [List.insertionSort, List.foldr_cons]
    show (List.orderedInsert _ m (l.insertionSort fun a b => a.1 ≤ b.1)).find? _ = _
    rw [find_orderedInsert, ih, List.find?_cons]
    by_cases h : m.1 = key <;> simp [h]

theorem find_sortMembers (key : String) : ∀ l : List (String × Json),
    (sortMembers l).find? (fun m => m.1 = key) = (l.find? fun m => m.1 = key).map fun m => (m.1, sortKeys m.2)
  | [] => rfl
  | (k, v) :: l => by
    have ih := find_sortMembers key l
    by_cases h : k = key <;> simp [sortMembers, h, ih]

/-- Sorting keeps the members. -/
theorem member_sortKeys (key : String) (value : Json) : member key (sortKeys value) = (member key value).map sortKeys := by
  cases value with
  | obj members =>
    simp only [sortKeys, member]
    rw [find_insertionSort, find_sortMembers]
    simp [Function.comp_def]
  | _ => simp [sortKeys, member]

theorem member_of_sortKeys_eq {a b : Json} (h : sortKeys a = sortKeys b) (key : String) :
    (member key a).map sortKeys = (member key b).map sortKeys := by
  rw [← member_sortKeys, ← member_sortKeys, h]

/-- A canonical text determines the members. -/
theorem member_of_dumps_eq {ensureAscii : Bool} {a b : Json} (h : dumps ensureAscii a = dumps ensureAscii b)
    (key : String) : (member key a).map sortKeys = (member key b).map sortKeys :=
  member_of_sortKeys_eq (dumps_inj h) key

theorem sortItems_eq_map : ∀ l : List Json, sortItems l = l.map sortKeys
  | [] => rfl
  | _ :: l => by rw [sortItems, List.map_cons, sortItems_eq_map l]

theorem sortMembers_append : ∀ a b : List (String × Json), sortMembers (a ++ b) = sortMembers a ++ sortMembers b
  | [], _ => rfl
  | (_, _) :: a, b => by simp only [List.cons_append, sortMembers, sortMembers_append a b]

theorem keys_sortMembers : ∀ a : List (String × Json), (sortMembers a).map Prod.fst = a.map Prod.fst
  | [] => rfl
  | (_, _) :: a => by simp only [sortMembers, List.map_cons, keys_sortMembers a]

/-- Members under the same distinct keys are found one by one. -/
theorem members_ext : ∀ {a b : List (String × Json)}, a.map Prod.fst = b.map Prod.fst → (a.map Prod.fst).Nodup →
    (∀ key, a.find? (fun m => m.1 = key) = b.find? fun m => m.1 = key) → a = b
  | [], [], _, _, _ => rfl
  | x :: a, y :: b, hkeys, hnodup, hfind => by
    simp only [List.map_cons, List.cons.injEq, List.nodup_cons] at hkeys hnodup
    have hxy : x = y := by simpa [hkeys.1] using hfind x.1
    subst hxy
    have htail : ∀ key, a.find? (fun m => m.1 = key) = b.find? fun m => m.1 = key := by
      intro key
      by_cases hkey : x.1 = key
      · subst hkey
        have hnone : ∀ l : List (String × Json), x.1 ∉ l.map Prod.fst → l.find? (fun m => m.1 = x.1) = none := by
          intro l hl
          rw [List.find?_eq_none]
          intro m hm h
          exact hl (List.mem_map.mpr ⟨m, hm, by simpa using h⟩)
        rw [hnone a hnodup.1, hnone b (hkeys.2 ▸ hnodup.1)]
      · simpa [hkey] using hfind key
    rw [members_ext hkeys.2 hnodup.2 htail]

/-- Equal objects under the same keys in the same order have equal members. -/
theorem sortMembers_of_sortKeys_eq {a b : List (String × Json)} (h : sortKeys (.obj a) = sortKeys (.obj b))
    (hkeys : a.map Prod.fst = b.map Prod.fst) (hnodup : (a.map Prod.fst).Nodup) : sortMembers a = sortMembers b := by
  refine members_ext (by rw [keys_sortMembers, keys_sortMembers, hkeys]) (by rwa [keys_sortMembers]) fun key => ?_
  have hsorted := Json.obj.inj h
  rw [← find_insertionSort, hsorted, find_insertionSort]

theorem sortMembers_of_dumps_eq {ensureAscii : Bool} {a b : List (String × Json)}
    (h : dumps ensureAscii (.obj a) = dumps ensureAscii (.obj b)) (hkeys : a.map Prod.fst = b.map Prod.fst)
    (hnodup : (a.map Prod.fst).Nodup) : sortMembers a = sortMembers b :=
  sortMembers_of_sortKeys_eq (dumps_inj h) hkeys hnodup

end PyJson
