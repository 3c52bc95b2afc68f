import ReactiveSheet.Json.Reading
import ReactiveSheet.Proofs.Binary64.ReadBack

/-!
Reading what is written. Main statement: a value whose strings denote texts and whose numbers are
finite is what its text reads as (`Writable.read_text`).
-/

namespace ReactiveSheet.Json

variable {α : Type} {item : List Char → Option (α × List Char)} {write : α → List Char}
  {close c : Char} {items : List α} {cs rest : List Char} {n : Nat} {x : Float} {j : Json}

theorem skipBlank_cons (hc : isBlank c = false) : skipBlank (c :: cs) = c :: cs :=
  List.dropWhile_cons_of_neg (by simp [hc])

section Strings

/-- A part of a string stands for a character, whatever parts come after it. -/
def StringPart.Denotes (part : StringPart) (c : Char) : Prop :=
  ∀ parts, joinParts (part :: parts) = (joinParts parts).map (c :: ·)

/-- What is written for a part of a string, whatever parts come after it. -/
def StringPart.WrittenAs (part : StringPart) (cs : List Char) : Prop :=
  ∀ {rest parts tail}, readParts rest = some (parts, tail) →
    readParts (cs ++ rest) = some (part :: parts, tail)

theorem denotes_char (c : Char) : (StringPart.char c).Denotes c := fun _ => rfl

theorem denotes_unit (hc : c.toNat < 0xD800) : (StringPart.unit c.toNat).Denotes c := by
  have hhigh : isHighSurrogate c.toNat = false := by
    simp only [isHighSurrogate, Bool.and_eq_false_iff, decide_eq_false_iff_not]
    omega
  have hlow : isLowSurrogate c.toNat = false := by
    simp only [isLowSurrogate, Bool.and_eq_false_iff, decide_eq_false_iff_not]
    omega
  rintro (_ | ⟨_ | _, _⟩) <;> simp [joinParts, hhigh, hlow]

theorem codeUnit?_hexDigit :
    ∀ n < 0x20, codeUnit? '0' '0' (hexDigit (n / 16)) (hexDigit n) = some n := by
  decide

theorem writtenAs_escape {e : Char} (hu : e ≠ 'u') (he : escape? e = some c) :
    (StringPart.char c).WrittenAs ['\\', e] := by
  intro rest parts tail hrest
  rw [List.cons_append, List.cons_append, List.nil_append, readParts]
  · simp [he, hrest]
  · intro _ _ _ _ _ h
    exact absurd h hu

theorem writtenAs_unit (hn : n < 0x20) :
    (StringPart.unit n).WrittenAs ['\\', 'u', '0', '0', hexDigit (n / 16), hexDigit n] := by
  intro rest parts tail hrest
  simp [readParts, codeUnit?_hexDigit n hn, hrest]

theorem writtenAs_self (hquote : c ≠ '"') (hslash : c ≠ '\\') (hcontrol : ¬ c.toNat < 0x20) :
    (StringPart.char c).WrittenAs [c] := by
  intro rest parts tail hrest
  rw [List.cons_append, List.nil_append, readParts]
  · simp [hslash, hcontrol, hrest]
  · exact fun h => absurd h hquote
  · intro _ _ _ _ _ h
    exact absurd h hslash
  · intro _ _ h
    exact absurd h hslash

/-- A character is written as one part that stands for it. -/
theorem exists_writtenAs (c : Char) :
    ∃ part : StringPart, part.Denotes c ∧ part.WrittenAs (escaped c) := by
  unfold escaped
  split_ifs with hquote hslash hb hf hn hr ht hcontrol
  · subst hquote
    exact ⟨.char '"', denotes_char _, writtenAs_escape (by decide) rfl⟩
  · subst hslash
    exact ⟨.char '\\', denotes_char _, writtenAs_escape (by decide) rfl⟩
  · exact ⟨.char c, denotes_char c, writtenAs_escape (by decide) (hb ▸ rfl)⟩
  · exact ⟨.char c, denotes_char c, writtenAs_escape (by decide) (hf ▸ rfl)⟩
  · exact ⟨.char c, denotes_char c, writtenAs_escape (by decide) (hn ▸ rfl)⟩
  · exact ⟨.char c, denotes_char c, writtenAs_escape (by decide) (hr ▸ rfl)⟩
  · exact ⟨.char c, denotes_char c, writtenAs_escape (by decide) (ht ▸ rfl)⟩
  · exact ⟨.unit c.toNat, denotes_unit (by omega), writtenAs_unit hcontrol⟩
  · exact ⟨.char c, denotes_char c, writtenAs_self hquote hslash hcontrol⟩

theorem exists_readParts (cs rest : List Char) :
    ∃ parts, readParts (cs.flatMap escaped ++ '"' :: rest) = some (parts, rest) ∧
      joinParts parts = some cs := by
  induction cs with
  | nil => exact ⟨[], rfl, rfl⟩
  | cons c cs ih =>
    obtain ⟨parts, hread, hjoin⟩ := ih
    obtain ⟨part, hdenotes, hwritten⟩ := exists_writtenAs c
    refine ⟨part :: parts, ?_, ?_⟩
    · rw [List.flatMap_cons, List.append_assoc]
      exact hwritten hread
    · rw [hdenotes, hjoin, Option.map_some]

theorem readString_escaped (s : String) (rest : List Char) :
    readString (s.toList.flatMap escaped ++ '"' :: rest) = some (some s, rest) := by
  obtain ⟨parts, hread, hjoin⟩ := exists_readParts s.toList rest
  simp [readString, hread, hjoin]

end Strings

section Numbers

open Binary64 (Decimal)

/-- The characters that end a value among others. -/
def ends : List Char := [',', ']', '\x7d']

/-- What comes after a value: nothing, a comma, or what closes an array or an object. -/
def Follows (rest : List Char) : Prop := ∀ c ∈ rest.head?, c ∈ ends

theorem follows_nil : Follows [] := nofun

theorem follows_cons (hc : c ∈ ends) : Follows (c :: rest) := by
  simpa [Follows] using hc

theorem Follows.head_ne (hrest : Follows rest) {p : Char → Prop}
    (hp : ∀ c ∈ ends, ¬ p c) : ∀ c ∈ rest.head?, ¬ p c :=
  fun c hc => hp c (hrest c hc)

/-- Only zero has a zero for its first digit. -/
theorem head?_toDigits (hn : n ≠ 0) : (Nat.toDigits 10 n).head? ≠ some '0' := by
  induction n using Nat.strongRecOn with
  | ind n ih =>
    rcases Nat.lt_or_ge n 10 with hlt | hge
    · rw [Nat.toDigits_of_lt_base hlt]
      have hdigits : ∀ n < 10, n ≠ 0 → some (Nat.digitChar n) ≠ some '0' := by decide
      exact hdigits n hlt hn
    · have hfirst := ih (n / 10) (by omega) (by omega)
      obtain ⟨c, cs, htext⟩ :=
        List.exists_cons_of_ne_nil (Nat.toDigits_ne_nil (n := n / 10) (b := 10))
      rw [Nat.toDigits_of_base_le (by decide) hge, htext]
      rwa [htext] at hfirst

theorem readWhole_toDigits (n : Nat) (hrest : ∀ c ∈ rest.head?, ¬ c.isDigit = true) :
    readWhole (Nat.toDigits 10 n ++ rest) = some (Nat.toDigits 10 n, rest) := by
  by_cases hn : n = 0
  · subst hn
    rw [Nat.toDigits_zero]
    rfl
  · have hdigits : ∀ c ∈ Nat.toDigits 10 n, c.isDigit = true :=
      fun c hc => Nat.isDigit_of_mem_toDigits (by decide) (by decide) hc
    have hsplit := Binary64.splitDigits_append hdigits hrest
    have hzero := head?_toDigits hn
    obtain ⟨c, cs, htext⟩ := List.exists_cons_of_ne_nil (Nat.toDigits_ne_nil (n := n) (b := 10))
    rw [htext] at hsplit hzero ⊢
    rw [List.cons_append, readWhole]
    · rw [← List.cons_append, hsplit]
    · rintro cs' ⟨⟩
      exact hzero rfl

/-- The digits after the point are those of the places, also where there are none. -/
theorem readFraction_places (d : Decimal) (hrest : Follows rest) :
    readFraction ((if d.places = 0 then []
        else '.' :: Decimal.lastDigits d.coeff d.places) ++ rest) =
      some (Decimal.lastDigits d.coeff d.places, rest) := by
  split_ifs with hplaces
  · rw [hplaces, List.nil_append, readFraction]
    · rfl
    · rintro cs rfl
      exact absurd (hrest '.' rfl) (by decide)
  · have hsplit : Binary64.splitDigits (Decimal.lastDigits d.coeff d.places ++ rest) = _ :=
      Binary64.splitDigits_append (fun _ => Binary64.isDigit_of_mem_lastDigits)
        (hrest.head_ne (by simp [ends]))
    have hne : Decimal.lastDigits d.coeff d.places ≠ [] := by
      rw [← List.length_pos_iff, Decimal.lastDigits_length]
      omega
    obtain ⟨c, cs, hdigits⟩ := List.exists_cons_of_ne_nil hne
    rw [hdigits] at hsplit ⊢
    rw [List.cons_append, readFraction, hsplit]

theorem readExponent_of_follows (hrest : Follows rest) : readExponent rest = some (0, rest) := by
  cases rest with
  | nil => rfl
  | cons c cs =>
    have hends : ∀ c ∈ ends, ¬ (c = 'e' ∨ c = 'E') := by simp [ends]
    have hc : ¬ (c = 'e' ∨ c = 'E') := hrest.head_ne hends c rfl
    rw [readExponent, if_neg hc]

theorem readMinus_signed (d : Decimal) (negative : Bool) (rest : List Char) :
    readMinus (Binary64.signed negative d.text ++ rest) = (negative, d.text ++ rest) := by
  cases negative with
  | true => rfl
  | false =>
    obtain ⟨c, cs, htext, hc⟩ := Binary64.exists_digit_text d
    rw [Binary64.signed, if_neg (by decide), htext, List.cons_append, readMinus]
    rintro _ ⟨⟩
    cases hc

theorem readNumber_signed {d : Decimal} (hx : Binary64.magnitude? x = some d.magnitude)
    (hrest : Follows rest) :
    readNumber (Binary64.signed (Binary64.isNegative x) d.text ++ rest) = some (x, rest) := by
  have hpoint : ∀ c ∈ ((if d.places = 0 then []
      else '.' :: Decimal.lastDigits d.coeff d.places) ++ rest).head?,
        ¬ c.isDigit = true := by
    split_ifs
    · exact hrest.head_ne (by simp [ends])
    · rintro c ⟨⟩
      decide
  have hwhole := readWhole_toDigits (d.coeff / Nat.pow 10 d.places) hpoint
  rw [← List.append_assoc, ← Decimal.text] at hwhole
  simp only [readNumber, readMinus_signed, hwhole, readFraction_places d hrest,
    readExponent_of_follows hrest, Decimal.ofDigitChars_digits, Decimal.lastDigits_length,
    Int.zero_sub, Option.bind_eq_bind, Option.bind_some, Option.pure_def]
  rw [← Decimal.magnitude, ← Binary64.eq_toFloat hx]

theorem readNumber_text (hx : Binary64.isFinite x = true) (hrest : Follows rest) :
    readNumber (Binary64.text x ++ rest) = some (x, rest) := by
  obtain ⟨d, htext, hd⟩ := Binary64.exists_text hx
  rw [htext]
  exact readNumber_signed hd hrest

end Numbers

section Lists

/-- The text of items that are written alike, and the character that closes them. -/
def listText (write : α → List Char) (close : Char) : List α → List Char
  | [] => [close]
  | [a] => write a ++ [close]
  | a :: as => write a ++ ',' :: listText write close as

def memberText (m : Option String × Json) : List Char := quotedText m.1 ++ ':' :: m.2.text

theorem itemsText_eq (items : List Json) : itemsText items = listText text ']' items := by
  induction items with
  | nil => rfl
  | cons v vs ih =>
    cases vs with
    | nil => rfl
    | cons w ws => rw [itemsText, listText, ih] <;> exact nofun

theorem membersText_eq (members : List (Option String × Json)) :
    membersText members = listText memberText '\x7d' members := by
  induction members with
  | nil => rfl
  | cons m ms ih =>
    cases ms with
    | nil => simp [membersText, listText, memberText]
    | cons m' ms => simp [membersText, listText, memberText, ih]

theorem listText_cons_cons (write : α → List Char) (close : Char) (a b : α) (items : List α) :
    listText write close (a :: b :: items) = write a ++ ',' :: listText write close (b :: items) :=
  rfl

theorem length_le_listText (write : α → List Char) (close : Char) (items : List α) :
    items.length ≤ (listText write close items).length := by
  induction items with
  | nil => exact Nat.zero_le _
  | cons a as ih =>
    cases as with
    | nil => simp [listText]
    | cons b bs =>
      simp only [listText_cons_cons, List.length_append, List.length_cons] at ih ⊢
      omega

theorem length_lt_listText {a : α} (write : α → List Char) (close : Char) (ha : a ∈ items) :
    (write a).length < (listText write close items).length := by
  induction items with
  | nil => cases ha
  | cons b bs ih =>
    cases bs with
    | nil =>
      cases List.mem_singleton.1 ha
      simp [listText]
    | cons d ds =>
      rw [listText_cons_cons, List.length_append, List.length_cons]
      rcases List.mem_cons.1 ha with rfl | ha
      · omega
      · have := ih ha
        omega

/-- A reader gives back an item from what is written for it. -/
def ReadsBack (item : List Char → Option (α × List Char)) (write : α → List Char) (a : α) : Prop :=
  ∀ rest, Follows rest → item (write a ++ rest) = some (a, rest)

/-- A text begins with a character by which no list is separated or closed. -/
def Begins (cs : List Char) : Prop :=
  ∃ c more, cs = c :: more ∧ isBlank c = false ∧ c ∉ ends

theorem Begins.append (h : Begins cs) (rest : List Char) : Begins (cs ++ rest) := by
  obtain ⟨c, more, rfl, hc⟩ := h
  exact ⟨c, more ++ rest, rfl, hc⟩

theorem begins_listText {a : α} (ha : Begins (write a)) :
    Begins (listText write close (a :: items)) := by
  cases items with
  | nil => exact ha.append _
  | cons b bs => exact ha.append _

theorem isBlank_of_mem_ends (hc : c ∈ ends) : isBlank c = false := by
  have h : ∀ c ∈ ends, isBlank c = false := by simp [ends, isBlank]
  exact h c hc

theorem readItems_listText (hclose : close ∈ ends) (hcomma : close ≠ ',') (hne : items ≠ [])
    (hitems : ∀ a ∈ items, ReadsBack item write a) (hn : items.length ≤ n) :
    readItems item close n (listText write close items ++ rest) = some (items, rest) := by
  induction items generalizing n with
  | nil => exact absurd rfl hne
  | cons a as ih =>
    obtain ⟨ha, has⟩ := List.forall_mem_cons.1 hitems
    cases n with
    | zero => cases hn
    | succ n =>
      cases as with
      | nil =>
        have hread : item (write a ++ close :: rest) = _ := ha _ (follows_cons hclose)
        simp [listText, readItems, hread, skipBlank_cons (isBlank_of_mem_ends hclose), hcomma]
      | cons b bs =>
        have hread : item (write a ++ ',' :: (listText write close (b :: bs) ++ rest)) = _ :=
          ha _ (follows_cons List.mem_cons_self)
        have hmore := ih (List.cons_ne_nil b bs) has (Nat.le_of_succ_le_succ hn)
        rw [listText_cons_cons, List.append_assoc, List.cons_append, readItems, hread]
        simp [skipBlank_cons (isBlank_of_mem_ends List.mem_cons_self), hmore]

theorem readList_listText (hclose : close ∈ ends) (hcomma : close ≠ ',')
    (hitems : ∀ a ∈ items, ReadsBack item write a) (hbegins : ∀ a ∈ items, Begins (write a))
    (hn : items.length ≤ n) :
    readList item close n (listText write close items ++ rest) = some (items, rest) := by
  cases items with
  | nil =>
    simp [listText, readList, skipBlank_cons (isBlank_of_mem_ends hclose)]
  | cons a as =>
    have hread : readItems item close n (listText write close (a :: as) ++ rest) = _ :=
      readItems_listText hclose hcomma (List.cons_ne_nil a as) hitems hn
    obtain ⟨c, more, htext, hblank, hopen⟩ :=
      (begins_listText (hbegins a List.mem_cons_self)).append rest
    have hne : c ≠ close := by
      rintro rfl
      exact hopen hclose
    rw [htext] at hread ⊢
    simp [readList, skipBlank_cons hblank, hne, hread]

end Lists

/-- A value that its text tells: its strings and keys denote texts and its numbers are finite. -/
inductive Writable : Json → Prop
  | null : Writable .null
  | bool (b : Bool) : Writable (.bool b)
  | number {x : Float} (hx : Binary64.isFinite x = true) : Writable (.number x)
  | string (s : String) : Writable (.ofString s)
  | array {items : List Json} (hitems : ∀ v ∈ items, Writable v) : Writable (.array items)
  | object {members : List (String × Json)} (hmembers : ∀ m ∈ members, Writable m.2) :
    Writable (.ofMembers members)

/-- The text of a finite number begins with a digit or a minus. -/
theorem exists_text_cons (hx : Binary64.isFinite x = true) :
    ∃ c cs, Binary64.text x = c :: cs ∧ (c.isDigit = true ∨ c = '-') := by
  obtain ⟨d, htext, -⟩ := Binary64.exists_text hx
  obtain ⟨c, cs, hdecimal, hc⟩ := Binary64.exists_digit_text d
  rw [htext, hdecimal]
  cases Binary64.isNegative x with
  | false => exact ⟨c, cs, rfl, .inl hc⟩
  | true => exact ⟨'-', c :: cs, rfl, .inr rfl⟩

theorem isBlank_of_digit_or_minus (hc : c.isDigit = true ∨ c = '-') : isBlank c = false := by
  have h : ∀ c ∈ [' ', '\t', '\n', '\r'], ¬ (c.isDigit = true ∨ c = '-') := by simp
  have hne : c ∉ [' ', '\t', '\n', '\r'] := fun hmem => h c hmem hc
  simpa [isBlank, and_assoc] using hne

theorem begins_number (x : Float) : Begins (numberText x) := by
  unfold numberText
  split_ifs with hx
  · obtain ⟨c, cs, htext, hc⟩ := exists_text_cons hx
    have h : ∀ c ∈ ends, ¬ (c.isDigit = true ∨ c = '-') := by simp [ends]
    exact ⟨c, cs, htext, isBlank_of_digit_or_minus hc, fun hmem => h c hmem hc⟩
  · exact ⟨'n', _, rfl, by decide, by decide⟩

theorem begins_text (j : Json) : Begins j.text := by
  cases j with
  | null => exact ⟨'n', _, rfl, by decide, by decide⟩
  | bool b =>
    cases b with
    | false => exact ⟨'f', _, rfl, by decide, by decide⟩
    | true => exact ⟨'t', _, rfl, by decide, by decide⟩
  | number x => exact begins_number x
  | string s => exact ⟨'"', _, rfl, by decide, by decide⟩
  | array items => exact ⟨'[', _, rfl, by decide, by decide⟩
  | object members => exact ⟨'\x7b', _, rfl, by decide, by decide⟩

theorem readValue_quote (n : Nat) (cs : List Char) :
    readValue (n + 1) ('"' :: cs) = (readString cs).map fun r => (.string r.1, r.2) := rfl

theorem readValue_bracket (n : Nat) (cs : List Char) :
    readValue (n + 1) ('[' :: cs) =
      (readList (readValue n) ']' n cs).map fun r => (.array r.1, r.2) := rfl

theorem readValue_brace (n : Nat) (cs : List Char) :
    readValue (n + 1) ('\x7b' :: cs) =
      (readList (readMember (readValue n)) '\x7d' n cs).map fun r => (.object r.1, r.2) := rfl

theorem readValue_of_digit_or_minus (hc : c.isDigit = true ∨ c = '-') :
    readValue (n + 1) (c :: cs) = (readNumber (c :: cs)).map fun r => (.number r.1, r.2) := by
  have h : ∀ c ∈ ['n', 't', 'f', '"', '[', '\x7b'], ¬ (c.isDigit = true ∨ c = '-') := by simp
  rw [readValue, skipBlank_cons (isBlank_of_digit_or_minus hc)]
  split
  case h_7 => rfl
  all_goals
    rename_i heq
    cases heq
    exact absurd hc (h _ (by decide))

theorem readsBack_number (hx : Binary64.isFinite x = true) :
    ReadsBack (readValue (n + 1)) text (.number x) := by
  intro rest hrest
  obtain ⟨c, cs, htext, hc⟩ := exists_text_cons hx
  have hread := readNumber_text hx hrest
  rw [text, numberText, if_pos hx]
  rw [htext, List.cons_append] at hread ⊢
  rw [readValue_of_digit_or_minus hc, hread, Option.map_some]

theorem readsBack_string (s : String) : ReadsBack (readValue (n + 1)) text (.ofString s) := by
  intro rest _
  have htext : (ofString s).text ++ rest = '"' :: (s.toList.flatMap escaped ++ '"' :: rest) := by
    simp [ofString, text, quotedText, quoted]
  rw [htext, readValue_quote, readString_escaped, Option.map_some]
  rfl

theorem readsBack_array {items : List Json} (hitems : ∀ v ∈ items, ReadsBack (readValue n) text v)
    (hn : items.length ≤ n) : ReadsBack (readValue (n + 1)) text (.array items) := by
  intro rest _
  rw [text, itemsText_eq, List.cons_append, readValue_bracket,
    readList_listText (by decide) (by decide) hitems (fun v _ => begins_text v) hn, Option.map_some]

theorem readsBack_member {value : List Char → Option (Json × List Char)} {m : String × Json}
    (hm : ReadsBack value text m.2) : ReadsBack (readMember value) memberText (some m.1, m.2) := by
  intro rest hrest
  have htext : memberText (some m.1, m.2) ++ rest =
      '"' :: (m.1.toList.flatMap escaped ++ '"' :: (':' :: (m.2.text ++ rest))) := by
    simp [memberText, quotedText, quoted]
  have hquote : isBlank '"' = false := by decide
  have hcolon : isBlank ':' = false := by decide
  rw [htext, readMember, skipBlank_cons hquote]
  simp [readString_escaped, skipBlank_cons hcolon, hm rest hrest]

theorem readsBack_object {members : List (String × Json)}
    (hmembers : ∀ m ∈ members, ReadsBack (readValue n) text m.2) (hn : members.length ≤ n) :
    ReadsBack (readValue (n + 1)) text (.ofMembers members) := by
  intro rest _
  have hread : ∀ m ∈ members.map fun m => (some m.1, m.2),
      ReadsBack (readMember (readValue n)) memberText m :=
    List.forall_mem_map.2 fun m hm => readsBack_member (hmembers m hm)
  rw [ofMembers, text, membersText_eq, List.cons_append, readValue_brace,
    readList_listText (by decide) (by decide) hread (fun m _ => ⟨'"', _, rfl, by decide, by decide⟩)
      (by rwa [List.length_map]), Option.map_some]

/-- The text of a value reads back as it, whatever comes after it that may come after a value. -/
theorem Writable.readsBack (hj : Writable j) (hn : j.text.length ≤ n) :
    ReadsBack (readValue (n + 1)) text j := by
  induction hj generalizing n with
  | null => exact fun _ _ => rfl
  | bool b => cases b <;> exact fun _ _ => rfl
  | number hx => exact readsBack_number hx
  | string s => exact readsBack_string s
  | @array items hitems ih =>
    rw [text, itemsText_eq, List.length_cons] at hn
    have hlength := length_le_listText text ']' items
    obtain ⟨k, rfl⟩ : ∃ k, n = k + 1 := ⟨n - 1, by omega⟩
    refine readsBack_array (fun v hv => ih v hv ?_) (by omega)
    have hlt := length_lt_listText text ']' hv
    omega
  | @object members hmembers ih =>
    generalize hpairs : (members.map fun m => (some m.1, m.2)) = pairs
    have hlength := length_le_listText memberText '\x7d' pairs
    rw [ofMembers, text, membersText_eq, List.length_cons, hpairs] at hn
    rw [← hpairs, List.length_map, hpairs] at hlength
    obtain ⟨k, rfl⟩ : ∃ k, n = k + 1 := ⟨n - 1, by omega⟩
    refine readsBack_object (fun m hm => ih m hm ?_) (by omega)
    have hpair : (some m.1, m.2) ∈ pairs := hpairs ▸ List.mem_map_of_mem hm
    have hlt := length_lt_listText memberText '\x7d' hpair
    simp only [memberText, List.length_append, List.length_cons] at hlt
    omega

theorem Writable.read_text (hj : Writable j) : read (String.ofList j.text) = some j := by
  have h := hj.readsBack le_rfl [] follows_nil
  rw [List.append_nil] at h
  unfold read
  rw [String.toList_ofList]
  simp [h, skipBlank]

end ReactiveSheet.Json
