import KeyPlan.Json.Reader
import KeyPlan.Json.Writer

/-!
# Reading what was written

A reader takes a written value from the head of a text if it gets the value back, whatever may
follow it there. Strings are taken back character by character; a list is taken back if its items
are, and an object if each of its members changes the state of the reader as it should.

## Main definitions

* `Spaces`: blanks around a value
* `Stops`, `Starts`: what may follow a value, and what a value starts with
* `Reads`: a reader takes a text for a value
* `Fills`: a reader takes the members of an object one after another

## Main results

* `readStringBody_flatMap_escape`: a string is taken back
* `readItems_withCommas`, `Reads.list`: a list is taken back
* `Fills.readMembers_append`, `Reads.record`, `Reads.indentedRecord`: an object is taken back
-/

namespace KeyPlan.Json

/-! ## Steps that succeed -/

/-- A step that has succeeded is followed by the rest. -/
theorem ok_bind {ε α β : Type} (x : α) (next : α → Except ε β) : (.ok x >>= next) = next x := rfl

theorem pure_ok {ε α : Type} (x : α) : (pure x : Except ε α) = .ok x := rfl

/-! ## What stands around a value -/

/-- Blanks, or nothing. -/
def Spaces (s : List Char) : Prop := ∀ c ∈ s, isSpace c = true

instance (s : List Char) : Decidable (Spaces s) :=
  List.decidableBAll (isSpace · = true) s

theorem spaces_nil : Spaces [] := List.forall_mem_nil _

/-- **The text may follow a value**: it is at its end, or a comma, a closing bracket or a blank
comes next. -/
def Stops (s : List Char) : Prop :=
  ∀ c ∈ s.head?, c = ',' ∨ c = ']' ∨ c = '\x7d' ∨ isSpace c = true

/-- The text starts with neither a blank nor the end of a list. -/
def Starts (s : List Char) : Prop := ∃ c r, s = c :: r ∧ isSpace c = false ∧ c ≠ ']'

/-- **A reader takes a text for a value**, whatever may follow it. -/
structure Reads {α : Type} (reader : Reader α) (text : List Char) (x : α) : Prop where
  starts : Starts text
  takes : ∀ rest, Stops rest → reader (text ++ rest) = .ok (x, rest)

theorem stops_nil : Stops [] := nofun

theorem stops_comma (s : List Char) : Stops (',' :: s) := by
  rintro c ⟨⟩
  exact .inl rfl

theorem stops_bracket (s : List Char) : Stops (']' :: s) := by
  rintro c ⟨⟩
  exact .inr (.inl rfl)

theorem stops_brace (s : List Char) : Stops ('\x7d' :: s) := by
  rintro c ⟨⟩
  exact .inr (.inr (.inl rfl))

theorem skipSpace_cons {c : Char} (h : isSpace c = false) (s : List Char) :
    skipSpace (c :: s) = c :: s := by
  rw [skipSpace, List.dropWhile_cons_of_neg (Bool.eq_false_iff.mp h)]

/-- Blanks in front do not matter. -/
theorem skipSpace_append {gap : List Char} (h : Spaces gap) (s : List Char) :
    skipSpace (gap ++ s) = skipSpace s :=
  List.dropWhile_append_of_pos h

/-- What may follow a value may also follow it behind blanks. -/
theorem Spaces.stops {gap : List Char} (h : Spaces gap) {rest : List Char} (hrest : Stops rest) :
    Stops (gap ++ rest) := by
  cases gap with
  | nil => exact hrest
  | cons b gap =>
    rintro c ⟨⟩
    exact .inr (.inr (.inr (h b List.mem_cons_self)))

/-- **A text that is one written value.** -/
theorem Reads.wholeText {α : Type} {reader : Reader α} {text : List Char} {x : α}
    (h : Reads reader text x) : readWholeText reader text = .ok x := by
  have htaken := h.takes [] stops_nil
  rw [List.append_nil] at htaken
  simp [readWholeText, htaken, ok_bind, pure_ok]

/-! ## Strings -/

/-- **How a character is written**: behind a backslash if there is a letter for it, as its number if
it is another control, and otherwise as it is. -/
theorem escape_cases (c : Char) :
    (∃ e, shortEscape? e = some c ∧ escape c = ['\\', e]) ∨
      (c.toNat < 32 ∧
        escape c = ['\\', 'u', '0', '0', hexDigit (c.toNat / 16), hexDigit (c.toNat % 16)]) ∨
      (c ≠ '"' ∧ c ≠ '\\' ∧ ¬ c.toNat < 32 ∧ escape c = [c]) := by
  -- the characters that have a letter, and all others
  by_cases hletter : c ∈ ['"', '\\', '\x08', '\x0c', '\n', '\r', '\t']
  · simp only [List.mem_cons, List.not_mem_nil, or_false] at hletter
    rcases hletter with rfl | rfl | rfl | rfl | rfl | rfl | rfl <;> exact .inl ⟨_, rfl, rfl⟩
  · simp only [List.mem_cons, List.not_mem_nil, or_false, not_or] at hletter
    obtain ⟨hquote, hbackslash, h₁, h₂, h₃, h₄, h₅⟩ := hletter
    have hplain : escape c = if c.toNat < 32 then
        ['\\', 'u', '0', '0', hexDigit (c.toNat / 16), hexDigit (c.toNat % 16)] else [c] := by
      simp only [escape, hquote, hbackslash, h₁, h₂, h₃, h₄, h₅, if_false]
    rw [hplain]
    by_cases hcontrol : c.toNat < 32
    · exact .inr (.inl ⟨hcontrol, if_pos hcontrol⟩)
    · exact .inr (.inr ⟨hquote, hbackslash, hcontrol, if_neg hcontrol⟩)

theorem hexDigit?_hexDigit : ∀ n < 16, hexDigit? (hexDigit n) = some n := by decide

theorem hexValue?_hexDigit {n : Nat} (h : n < 256) :
    hexValue? '0' '0' (hexDigit (n / 16)) (hexDigit (n % 16)) = some n := by
  have hzero : hexDigit? '0' = some 0 := by decide
  have hhigh := hexDigit?_hexDigit (n / 16) (by omega)
  have hlow := hexDigit?_hexDigit (n % 16) (by omega)
  have hvalue : ((0 * 16 + 0) * 16 + n / 16) * 16 + n % 16 = n := by omega
  simp only [hexValue?, hzero, hhigh, hlow]
  exact congrArg some hvalue

theorem readStringBody_quote (s : List Char) : readStringBody ('"' :: s) = .ok ([], s) := by
  rw [readStringBody.eq_def]
  rfl

theorem readStringBody_short {e x : Char} (h : shortEscape? e = some x) (s : List Char) :
    readStringBody ('\\' :: e :: s) = consChar x (readStringBody s) := by
  have hu : e ≠ 'u' := by
    rintro rfl
    exact nomatch h
  rw [readStringBody.eq_def]
  simp [hu, h]

/-- Outside of the surrogates a code unit is a character of its own. -/
theorem readStringBody_hex {h₁ h₂ h₃ h₄ : Char} {n : Nat} (h : hexValue? h₁ h₂ h₃ h₄ = some n)
    (hn : n < 0xD800 ∨ 0xDFFF < n) (s : List Char) :
    readStringBody ('\\' :: 'u' :: h₁ :: h₂ :: h₃ :: h₄ :: s) =
      consChar (Char.ofNat n) (readStringBody s) := by
  have htrailing : isTrailing n = false := by
    simp only [isTrailing, Bool.and_eq_false_iff, decide_eq_false_iff_not]
    omega
  have hleading : isLeading n = false := by
    simp only [isLeading, Bool.and_eq_false_iff, decide_eq_false_iff_not]
    omega
  rw [readStringBody.eq_def]
  simp [h, htrailing, hleading]

/-- A character is taken back from its written form. -/
theorem readStringBody_escape (c : Char) (s : List Char) :
    readStringBody (escape c ++ s) = consChar c (readStringBody s) := by
  rcases escape_cases c with ⟨e, he, h⟩ | ⟨hcontrol, h⟩ | ⟨hquote, hbackslash, hcontrol, h⟩ <;>
    rw [h]
  · exact readStringBody_short he s
  -- a control is written by its number, which is far below the surrogates
  · refine (readStringBody_hex (hexValue?_hexDigit (by omega)) (.inl (by omega)) s).trans ?_
    rw [Char.ofNat_toNat]
  · rw [List.singleton_append, readStringBody.eq_def]
    simp [hquote, hbackslash, hcontrol]

/-- **A string is taken back** up to its closing quote. -/
theorem readStringBody_flatMap_escape (s rest : List Char) :
    readStringBody (s.flatMap escape ++ '"' :: rest) = .ok (s, rest) := by
  induction s with
  | nil => exact readStringBody_quote rest
  | cons c s ih =>
    rw [List.flatMap_cons, List.append_assoc, readStringBody_escape, ih]
    rfl

theorem writeString_append (s : String) (rest : List Char) :
    writeString s ++ rest = '"' :: (s.toList.flatMap escape ++ '"' :: rest) := by
  simp [writeString]

theorem starts_writeString (s : String) : Starts (writeString s) :=
  ⟨'"', _, rfl, by decide, by decide⟩

theorem reads_stringAs (expected : String) (s : String) :
    Reads (readStringAs expected) (writeString s) s := by
  refine ⟨starts_writeString s, fun rest _ => ?_⟩
  rw [writeString_append, readStringAs, skipSpace_cons (by decide)]
  simp [readStringBody_flatMap_escape, ok_bind, pure_ok]

theorem reads_string (s : String) : Reads readString (writeString s) s :=
  reads_stringAs "a string" s

/-! ## Lists -/

/-- All texts but the first one have a comma in front of them. -/
theorem withCommas_cons (x : List Char) (xs : List (List Char)) :
    withCommas (x :: xs) = x ++ xs.flatMap (',' :: ·) := by
  induction xs generalizing x with
  | nil => simp [withCommas]
  | cons y ys ih =>
    rw [withCommas, ih, List.flatMap_cons]
    rfl

theorem length_le_flatMap_comma (xs : List (List Char)) :
    xs.length ≤ (xs.flatMap (',' :: ·)).length := by
  induction xs with
  | nil => exact Nat.le_refl 0
  | cons x xs ih =>
    simp only [List.flatMap_cons, List.length_append, List.length_cons]
    omega

theorem stops_flatMap_comma (xs : List (List Char)) {rest : List Char} (h : Stops rest) :
    Stops (xs.flatMap (',' :: ·) ++ rest) := by
  cases xs with
  | nil => exact h
  | cons x xs => exact stops_comma _

theorem nextItem?_bracket (first : Bool) (rest : List Char) :
    nextItem? first (']' :: rest) = .ok none := by
  rw [nextItem?, skipSpace_cons (by decide)]
  rfl

theorem closeList_bracket (rest : List Char) : closeList (']' :: rest) = .ok rest := by
  rw [closeList, skipSpace_cons (by decide)]
  rfl

theorem nextItem?_first {s : List Char} (h : Starts s) (rest : List Char) :
    nextItem? true (s ++ rest) = .ok (some (s ++ rest)) := by
  obtain ⟨c, r, rfl, hspace, hbracket⟩ := h
  rw [List.cons_append, nextItem?, skipSpace_cons hspace]
  simp [hbracket]

theorem nextItem?_comma {s : List Char} (h : Starts s) (rest : List Char) :
    nextItem? false (',' :: (s ++ rest)) = .ok (some (s ++ rest)) := by
  obtain ⟨c, r, rfl, hspace, hbracket⟩ := h
  rw [List.cons_append, nextItem?, skipSpace_cons (by decide)]
  simp [skipSpace_cons hspace, hbracket]

section Items

variable {α β : Type} {item : Reader α} {write : β → List Char} {value : β → α}

/-- The items behind the first one are taken back, if there is fuel for one more than there are. -/
theorem readItemsFrom_flatMap_comma (rest : List Char) {xs : List β} :
    ∀ {fuel : Nat}, (∀ x ∈ xs, Reads item (write x) (value x)) → xs.length < fuel →
      readItemsFrom item fuel false ((xs.map write).flatMap (',' :: ·) ++ ']' :: rest) =
        .ok (xs.map value, ']' :: rest) := by
  induction xs with
  | nil =>
    intro fuel _ hfuel
    obtain ⟨fuel, rfl⟩ := Nat.exists_eq_add_of_lt hfuel
    simp [readItemsFrom, readItem?, nextItem?_bracket, ok_bind, pure_ok]
  | cons x xs ih =>
    intro fuel h hfuel
    obtain ⟨fuel, rfl⟩ := Nat.exists_eq_add_one_of_ne_zero (Nat.ne_zero_of_lt hfuel)
    -- what follows the item is the comma of the next one or the bracket
    have hx := h x List.mem_cons_self
    have hitem := hx.takes _ (stops_flatMap_comma (xs.map write) (stops_bracket rest))
    have hrest := ih (fun y hy => h y (List.mem_cons_of_mem x hy)) (Nat.lt_of_succ_lt_succ hfuel)
    have htext : ((x :: xs).map write).flatMap (',' :: ·) ++ ']' :: rest =
        ',' :: (write x ++ ((xs.map write).flatMap (',' :: ·) ++ ']' :: rest)) := by simp
    rw [htext, readItemsFrom, readItem?]
    simp [nextItem?_comma hx.starts, hitem, hrest, ok_bind, pure_ok]

/-- **The items of a list are taken back** up to its closing bracket. -/
theorem readItems_withCommas (rest : List Char) {xs : List β}
    (h : ∀ x ∈ xs, Reads item (write x) (value x)) :
    readItems true item (withCommas (xs.map write) ++ ']' :: rest) =
      .ok (xs.map value, ']' :: rest) := by
  cases xs with
  | nil =>
    simp [readItems, withCommas, readItemsFrom, readItem?, nextItem?_bracket, ok_bind, pure_ok]
  | cons x xs =>
    have hx := h x List.mem_cons_self
    have hitem := hx.takes _ (stops_flatMap_comma (xs.map write) (stops_bracket rest))
    -- each of the other items has its comma, so the text is longer than there are items
    have hfuel : xs.length <
        (write x ++ ((xs.map write).flatMap (',' :: ·) ++ ']' :: rest)).length := by
      have hlength := length_le_flatMap_comma (xs.map write)
      simp only [List.length_map, List.length_append, List.length_cons] at hlength ⊢
      omega
    have hrest := readItemsFrom_flatMap_comma rest
      (fun y hy => h y (List.mem_cons_of_mem x hy)) hfuel
    have htext : withCommas ((x :: xs).map write) ++ ']' :: rest =
        write x ++ ((xs.map write).flatMap (',' :: ·) ++ ']' :: rest) := by
      rw [List.map_cons, withCommas_cons, List.append_assoc]
    rw [htext, readItems, readItemsFrom, readItem?]
    simp only [nextItem?_first hx.starts, hitem, hrest, ok_bind, pure_ok, List.map_cons]

theorem writeList_append (texts : List (List Char)) (rest : List Char) :
    writeList texts ++ rest = '[' :: (withCommas texts ++ ']' :: rest) := by
  simp [writeList]

/-- **A list is taken back.** -/
theorem Reads.list {xs : List β} (h : ∀ x ∈ xs, Reads item (write x) (value x)) :
    Reads (readList item) (writeList (xs.map write)) (xs.map value) := by
  refine ⟨⟨'[', _, rfl, by decide, by decide⟩, fun rest _ => ?_⟩
  rw [writeList_append, readList, skipSpace_cons (by decide)]
  simp [readItems_withCommas rest h, closeList_bracket, ok_bind, pure_ok]

end Items

/-! ## Objects -/

theorem nextKey?_brace (first : Bool) (rest : List Char) :
    nextKey? first ('\x7d' :: rest) = .ok none := by
  rw [nextKey?, skipSpace_cons (by decide)]
  rfl

/-- The closing brace may stand behind blanks. -/
theorem closeObject_append {gap : List Char} (h : Spaces gap) (rest : List Char) :
    closeObject (gap ++ '\x7d' :: rest) = .ok rest := by
  rw [closeObject, skipSpace_append h, skipSpace_cons (by decide)]
  rfl

theorem closeObject_brace (rest : List Char) : closeObject ('\x7d' :: rest) = .ok rest :=
  closeObject_append spaces_nil rest

theorem nextKey?_first (key : String) (rest : List Char) :
    nextKey? true (writeString key ++ rest) = .ok (some (key, rest)) := by
  rw [writeString_append, nextKey?, skipSpace_cons (by decide)]
  simp [readStringBody_flatMap_escape, ok_bind, pure_ok]

theorem nextKey?_comma (key : String) (rest : List Char) :
    nextKey? false (',' :: (writeString key ++ rest)) = .ok (some (key, rest)) := by
  rw [writeString_append, nextKey?, skipSpace_cons (by decide)]
  simp [skipSpace_cons (show isSpace '"' = false by decide), readStringBody_flatMap_escape, ok_bind,
    pure_ok]

theorem nextKey?_append {gap : List Char} (h : Spaces gap) (first : Bool) (s : List Char) :
    nextKey? first (gap ++ s) = nextKey? first s := by
  unfold nextKey?
  rw [skipSpace_append h]

theorem nextKey?_comma_append {gap : List Char} (h : Spaces gap) (s : List Char) :
    nextKey? false (',' :: (gap ++ s)) = nextKey? false (',' :: s) := by
  unfold nextKey?
  rw [skipSpace_cons (by decide), skipSpace_cons (by decide)]
  simp [skipSpace_append h]

theorem readColon_append {gap : List Char} (h : Spaces gap) (s : List Char) :
    readColon (gap ++ ':' :: s) = .ok s := by
  rw [readColon, skipSpace_append h, skipSpace_cons (by decide)]
  rfl

theorem readColon_colon (s : List Char) : readColon (':' :: s) = .ok s :=
  readColon_append spaces_nil s

/-- The value of a member is taken back behind the colon. -/
theorem Reads.memberValue {α : Type} {value : Reader α} {text : List Char} {x : α}
    (h : Reads value text x) {rest : List Char} (hrest : Stops rest) :
    readMemberValue value (':' :: (text ++ rest)) = .ok (x, rest) := by
  rw [readMemberValue, readColon_colon]
  exact h.takes rest hrest

/-- An empty slot is filled. -/
theorem Reads.fill {α : Type} {value : Reader α} {text : List Char} {x : α}
    (h : Reads value text x) (name : String) {rest : List Char} (hrest : Stops rest) :
    Json.fill name none value (':' :: (text ++ rest)) = .ok (some x, rest) := by
  simp [Json.fill, h.memberValue hrest, ok_bind, pure_ok]

/-- **A reader takes the members of an object** one after another, from one state to another. -/
inductive Fills {σ : Type} (member : σ → String → Reader σ) :
    σ → List (String × List Char) → σ → Prop where
  | nil (state : σ) : Fills member state [] state
  | cons {state next last : σ} {key : String} {text : List Char} {ms : List (String × List Char)}
      (head : ∀ rest, Stops rest → member state key (':' :: (text ++ rest)) = .ok (next, rest))
      (tail : Fills member next ms last) : Fills member state ((key, text) :: ms) last

section Members

variable {σ : Type} {member : σ → String → Reader σ} {start last : σ}
  {ms : List (String × List Char)} {lead tail : List Char}

/-- The members behind the first one are taken back, if there is fuel for one more than there are.
Blanks may stand in front of each member and of the closing brace. -/
theorem Fills.readMembersFrom (hlead : Spaces lead) (htail : Spaces tail)
    (h : Fills member start ms last) (rest : List Char) :
    ∀ {fuel : Nat}, ms.length < fuel →
      readMembersFrom member fuel false start
        ((ms.map (lead ++ writeMember ·)).flatMap (',' :: ·) ++ (tail ++ '\x7d' :: rest)) =
          .ok (last, tail ++ '\x7d' :: rest) := by
  induction h with
  | nil state =>
    intro fuel hfuel
    obtain ⟨fuel, rfl⟩ := Nat.exists_eq_add_of_lt hfuel
    simp [Json.readMembersFrom, nextKey?_append htail, nextKey?_brace, ok_bind, pure_ok]
  | @cons state next last key text ms head more ih =>
    intro fuel hfuel
    obtain ⟨fuel, rfl⟩ := Nat.exists_eq_add_one_of_ne_zero (Nat.ne_zero_of_lt hfuel)
    have hhead := head _ (stops_flatMap_comma (ms.map (lead ++ writeMember ·))
      (htail.stops (stops_brace rest)))
    have hmore := ih (Nat.lt_of_succ_lt_succ hfuel)
    have htext : (((key, text) :: ms).map (lead ++ writeMember ·)).flatMap (',' :: ·) ++
        (tail ++ '\x7d' :: rest) = ',' :: (lead ++ (writeString key ++ ':' :: (text ++
          ((ms.map (lead ++ writeMember ·)).flatMap (',' :: ·) ++ (tail ++ '\x7d' :: rest))))) := by
      simp [writeMember]
    rw [htext, Json.readMembersFrom]
    simp only [nextKey?_comma_append hlead, nextKey?_comma, hhead, hmore, ok_bind]

/-- **The members of an object are taken back** up to its closing brace, whatever blanks stand in
front of each of them and of the brace. -/
theorem Fills.readMembers_append (hlead : Spaces lead) (htail : Spaces tail)
    (h : Fills member start ms last) (rest : List Char) :
    Json.readMembers member start
        (withCommas (ms.map (lead ++ writeMember ·)) ++ (tail ++ '\x7d' :: rest)) =
      .ok (last, tail ++ '\x7d' :: rest) := by
  cases h with
  | nil =>
    simp [Json.readMembers, withCommas, Json.readMembersFrom, nextKey?_append htail,
      nextKey?_brace, ok_bind, pure_ok]
  | @cons _ next _ key text ms head more =>
    have hhead := head _ (stops_flatMap_comma (ms.map (lead ++ writeMember ·))
      (htail.stops (stops_brace rest)))
    have htext : withCommas (((key, text) :: ms).map (lead ++ writeMember ·)) ++
        (tail ++ '\x7d' :: rest) = lead ++ (writeString key ++ ':' :: (text ++
          ((ms.map (lead ++ writeMember ·)).flatMap (',' :: ·) ++ (tail ++ '\x7d' :: rest)))) := by
      rw [List.map_cons, withCommas_cons]
      simp [writeMember]
    -- each of the other members has its comma, so the text is longer than there are members
    have hfuel : ms.length < (lead ++ (writeString key ++ ':' :: (text ++
        ((ms.map (lead ++ writeMember ·)).flatMap (',' :: ·) ++
          (tail ++ '\x7d' :: rest))))).length := by
      have hlength := length_le_flatMap_comma (ms.map (lead ++ writeMember ·))
      simp only [List.length_map, List.length_append, List.length_cons] at hlength ⊢
      omega
    rw [htext, Json.readMembers, Json.readMembersFrom]
    simp only [nextKey?_append hlead, nextKey?_first, hhead,
      more.readMembersFrom hlead htail rest hfuel, ok_bind]

/-- The members of an object on one line. -/
theorem Fills.readMembers (h : Fills member start ms last) (rest : List Char) :
    Json.readMembers member start (withCommas (ms.map writeMember) ++ '\x7d' :: rest) =
      .ok (last, '\x7d' :: rest) :=
  @readMembers_append _ _ _ _ _ [] [] spaces_nil spaces_nil h rest

/-- The members of an object with one member per line: a blank stands in front of each value. -/
theorem Fills.readMembers_indented
    (h : Fills member start (ms.map fun m => (m.1, ' ' :: m.2)) last) (rest : List Char) :
    Json.readMembers member start
        (withCommas (ms.map writeIndentedMember) ++ '\n' :: '\x7d' :: rest) =
      .ok (last, '\n' :: '\x7d' :: rest) := by
  have hlead : Spaces ['\n', ' ', ' '] := by decide
  have htail : Spaces ['\n'] := by decide
  have hmembers := readMembers_append hlead htail h rest
  rw [List.map_map] at hmembers
  exact hmembers

end Members

theorem writeObject_append (ms : List (String × List Char)) (rest : List Char) :
    writeObject ms ++ rest =
      '\x7b' :: (withCommas (ms.map writeMember) ++ '\x7d' :: rest) := by
  simp [writeObject]

/-- **A record is taken back** if its members are. -/
theorem Reads.record {α : Type} {name : String} {fields members : Reader α} {x : α}
    {ms : List (String × List Char)}
    (h : ∀ rest, members (withCommas (ms.map writeMember) ++ '\x7d' :: rest) =
      .ok (x, '\x7d' :: rest)) :
    Reads (readRecord name fields members) (writeObject ms) x := by
  refine ⟨⟨'\x7b', _, rfl, by decide, by decide⟩, fun rest _ => ?_⟩
  rw [writeObject_append, readRecord, skipSpace_cons (by decide)]
  simp [h, closeObject_brace, ok_bind, pure_ok]

/-- **A record with one member per line is taken back** if its members are. -/
theorem Reads.indentedRecord {α : Type} {name : String} {fields members : Reader α} {x : α}
    {ms : List (String × List Char)}
    (h : ∀ rest, members (withCommas (ms.map writeIndentedMember) ++ '\n' :: '\x7d' :: rest) =
      .ok (x, '\n' :: '\x7d' :: rest)) :
    Reads (readRecord name fields members) (writeIndented ms) x := by
  refine ⟨⟨'\x7b', _, rfl, by decide, by decide⟩, fun rest _ => ?_⟩
  have htext : writeIndented ms ++ rest =
      '\x7b' :: (withCommas (ms.map writeIndentedMember) ++ '\n' :: '\x7d' :: rest) := by
    simp [writeIndented]
  have hfeed : Spaces ['\n'] := by decide
  have hclose : closeObject ('\n' :: '\x7d' :: rest) = .ok rest := closeObject_append hfeed rest
  rw [htext, readRecord, skipSpace_cons (by decide)]
  simp [h, hclose, ok_bind, pure_ok]

end KeyPlan.Json
