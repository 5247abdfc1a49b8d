import KeyPlan.Proofs.JsonForm

/-!
# Objects in any layout

An object may be laid out in many ways: blanks stand between its parts, and a name may be written
with escapes. A reader that takes members one after another sees none of this, if blanks around the
colon do not matter to it.

## Main definitions

* `Spelled`: what may stand between quotes for a name
* `MemberText`, `MembersText`, `ObjectText`: a member, members and an object in any layout
* `IgnoresSpaces`: blanks around the colon do not matter

## Main results

* `readStringBody_spelled`: a name is read in any spelling
* `MembersText.exists_readMembersFrom`: members are read one after another
* `ObjectText.readWholeText_record`: a record is read from an object in any layout
-/

namespace KeyPlan.Json

/-! ## Names -/

/-- **What may stand between quotes for a name.** Each character is plain, has an escape by a letter
or is given by its code unit, or by a surrogate pair if it has none. -/
inductive Spelled : List Char → List Char → Prop where
  | nil : Spelled [] []
  | plain {c : Char} {s t : List Char} (plain : isPlain c = true) (tail : Spelled s t) :
      Spelled (c :: s) (c :: t)
  | short {e c : Char} {s t : List Char}
      (letter : (e, c) ∈ [('"', '"'), ('\\', '\\'), ('/', '/'), ('b', '\x08'), ('f', '\x0c'),
        ('n', '\n'), ('r', '\r'), ('t', '\t')])
      (tail : Spelled s t) : Spelled ('\\' :: e :: s) (c :: t)
  | unit {h₁ h₂ h₃ h₄ c : Char} {s t : List Char} (value : hexValue? h₁ h₂ h₃ h₄ = some c.toNat)
      (tail : Spelled s t) : Spelled ('\\' :: 'u' :: h₁ :: h₂ :: h₃ :: h₄ :: s) (c :: t)
  | pair {h₁ h₂ h₃ h₄ k₁ k₂ k₃ k₄ c : Char} {high low : Nat} {s t : List Char}
      (lead : hexValue? h₁ h₂ h₃ h₄ = some (0xD800 + high)) (high_lt : high < 0x400)
      (trail : hexValue? k₁ k₂ k₃ k₄ = some (0xDC00 + low)) (low_lt : low < 0x400)
      (value : c.toNat = 0x10000 + high * 0x400 + low) (tail : Spelled s t) :
      Spelled ('\\' :: 'u' :: h₁ :: h₂ :: h₃ :: h₄ :: '\\' :: 'u' :: k₁ :: k₂ :: k₃ :: k₄ :: s)
        (c :: t)

/-- Plain characters spell themselves. -/
theorem spelled_self {s : List Char} (h : s.all isPlain = true) : Spelled s s := by
  induction s with
  | nil => exact .nil
  | cons c s ih =>
    rw [List.all_cons, Bool.and_eq_true] at h
    exact .plain h.1 (ih h.2)

/-- A code unit of its own is no half of a pair. -/
theorem readStringBody_unit {h₁ h₂ h₃ h₄ c : Char}
    (h : hexValue? h₁ h₂ h₃ h₄ = some c.toNat) (s : List Char) :
    readStringBody ('\\' :: 'u' :: h₁ :: h₂ :: h₃ :: h₄ :: s) = consChar c (readStringBody s) := by
  have hc : c.toNat < 0xD800 ∨ 0xDFFF < c.toNat := c.valid.imp id And.left
  rw [readStringBody_hex h hc, Char.ofNat_toNat]

/-- Two halves of a pair make a character. -/
theorem readStringBody_pair {h₁ h₂ h₃ h₄ k₁ k₂ k₃ k₄ : Char} {high low : Nat}
    (lead : hexValue? h₁ h₂ h₃ h₄ = some (0xD800 + high)) (high_lt : high < 0x400)
    (trail : hexValue? k₁ k₂ k₃ k₄ = some (0xDC00 + low)) (low_lt : low < 0x400) (s : List Char) :
    readStringBody
        ('\\' :: 'u' :: h₁ :: h₂ :: h₃ :: h₄ :: '\\' :: 'u' :: k₁ :: k₂ :: k₃ :: k₄ :: s) =
      consChar (pairChar (0xD800 + high) (0xDC00 + low)) (readStringBody s) := by
  have hhigh : isTrailing (0xD800 + high) = false ∧ isLeading (0xD800 + high) = true := by
    simp only [isTrailing, isLeading, Bool.and_eq_false_iff, Bool.and_eq_true,
      decide_eq_false_iff_not, decide_eq_true_eq]
    omega
  have hlow : isTrailing (0xDC00 + low) = true := by
    simp only [isTrailing, Bool.and_eq_true, decide_eq_true_eq]
    omega
  rw [readStringBody.eq_def]
  simp [lead, trail, hhigh, hlow]

/-- **A name is read in any spelling** up to its closing quote. -/
theorem readStringBody_spelled {body name : List Char} (h : Spelled body name)
    (rest : List Char) : readStringBody (body ++ '"' :: rest) = .ok (name, rest) := by
  induction h with
  | nil => exact readStringBody_quote rest
  | plain plain tail ih =>
    rw [List.cons_append, readStringBody.eq_def]
    simp only [isPlain_iff.mp plain, if_false, ih]
    rfl
  | @short e c s t letter tail ih =>
    have hletter : shortEscape? e = some c := by
      simp only [List.mem_cons, List.not_mem_nil, or_false, Prod.mk.injEq] at letter
      rcases letter with h | h | h | h | h | h | h | h <;> obtain ⟨rfl, rfl⟩ := h <;> rfl
    rw [List.cons_append, List.cons_append, readStringBody_short hletter, ih]
    rfl
  | unit value tail ih =>
    simp only [List.cons_append]
    rw [readStringBody_unit value, ih]
    rfl
  | @pair _ _ _ _ _ _ _ _ c high low s t lead high_lt trail low_lt value tail ih =>
    have hpair : pairChar (0xD800 + high) (0xDC00 + low) = c := by
      have hvalue : (0xD800 + high - 0xD800) * 0x400 + (0xDC00 + low - 0xDC00) + 0x10000 =
          c.toNat := by omega
      rw [pairChar, hvalue, Char.ofNat_toNat]
    simp only [List.cons_append]
    rw [readStringBody_pair lead high_lt trail low_lt, ih, hpair]
    rfl

/-! ## Objects -/

/-- **A member of an object**: a name and the text of its value, with blanks around each. -/
inductive MemberText : List Char → String × List Char → Prop where
  | intro {before body gap mid text after : List Char} {name : String} (lead : Spaces before)
      (spelled : Spelled body name.toList) (colon : Spaces gap) (start : Spaces mid)
      (value : Form .value text) (trail : Spaces after) :
      MemberText (before ++ '"' :: (body ++ '"' :: (gap ++ ':' :: (mid ++ (text ++ after)))))
        (name, text)

/-- **Members of an object**, with commas between them. -/
inductive MembersText : List Char → List (String × List Char) → Prop where
  | last {s : List Char} {m : String × List Char} (member : MemberText s m) : MembersText s [m]
  | more {s t : List Char} {m : String × List Char} {ms : List (String × List Char)}
      (member : MemberText s m) (members : MembersText t ms) : MembersText (s ++ ',' :: t) (m :: ms)

/-- **A text that is an object** with these members, in any layout. -/
inductive ObjectText : List Char → List (String × List Char) → Prop where
  | empty {before gap after : List Char} (lead : Spaces before) (blank : Spaces gap)
      (trail : Spaces after) : ObjectText (before ++ '\x7b' :: (gap ++ '\x7d' :: after)) []
  | members {before s after : List Char} {ms : List (String × List Char)} (lead : Spaces before)
      (members : MembersText s ms) (trail : Spaces after) :
      ObjectText (before ++ '\x7b' :: (s ++ '\x7d' :: after)) ms

theorem MembersText.form_value {s : List Char} {ms : List (String × List Char)}
    (h : MembersText s ms) : ∀ m ∈ ms, Form .value m.2 := by
  induction h with
  | last member =>
    obtain ⟨-, -, -, -, value, -⟩ := member
    simpa using value
  | more member members ih =>
    obtain ⟨-, -, -, -, value, -⟩ := member
    exact List.forall_mem_cons.mpr ⟨value, ih⟩

/-- The values in an object are texts of the grammar. -/
theorem ObjectText.form_value {s : List Char} {ms : List (String × List Char)}
    (h : ObjectText s ms) : ∀ m ∈ ms, Form .value m.2 := by
  cases h with
  | empty => exact List.forall_mem_nil _
  | members _ members _ => exact members.form_value

/-- What stands between the bracket or value before a name and the name, blanks aside. -/
def nameLead (first : Bool) : List Char := if first then [] else [',']

/-- **A name is read** in any spelling and with blanks wherever they may stand. -/
theorem nextKey?_spelled {first : Bool} {gap before body : List Char} {name : String}
    (hgap : Spaces gap) (hbefore : Spaces before) (h : Spelled body name.toList)
    (rest : List Char) :
    nextKey? first (gap ++ (nameLead first ++ (before ++ '"' :: (body ++ '"' :: rest)))) =
      .ok (some (name, rest)) := by
  have hbody := readStringBody_spelled h rest
  have hname : String.ofList name.toList = name := String.ofList_toList
  have hquote : isSpace '"' = false := by decide
  rw [nextKey?_append hgap]
  cases first with
  | true =>
    rw [show nameLead true = [] from rfl, List.nil_append, nextKey?_append hbefore, nextKey?,
      skipSpace_cons hquote]
    simp [hbody, hname, ok_bind, pure_ok]
  | false =>
    rw [show nameLead false = [','] from rfl, List.singleton_append,
      nextKey?_comma_append hbefore, nextKey?, skipSpace_cons (by decide)]
    simp [skipSpace_cons hquote, hbody, hname, ok_bind, pure_ok]

section Members

variable {σ : Type} {member : σ → String → Reader σ} {start last : σ}
  {ms : List (String × List Char)}

/-- **Blanks around the colon do not matter** to what takes a member. -/
def IgnoresSpaces (member : σ → String → Reader σ) : Prop :=
  ∀ (state : σ) (key : String) {gap mid : List Char} (s : List Char), Spaces gap → Spaces mid →
    member state key (gap ++ ':' :: (mid ++ s)) = member state key (':' :: s)

/-- A word is read behind blanks. -/
theorem readWord_append {gap : List Char} (h : Spaces gap) (s : List Char) :
    readWord (gap ++ s) = readWord s := by
  unfold readWord
  rw [skipSpace_append h]

/-- A slot does not see the blanks around the colon if the reader of the value does not. -/
theorem fill_append {α : Type} {value : Reader α} {gap mid : List Char} (hgap : Spaces gap)
    (hvalue : ∀ s, value (mid ++ s) = value s) (name : String) (slot : Option α) (s : List Char) :
    fill name slot value (gap ++ ':' :: (mid ++ s)) = fill name slot value (':' :: s) := by
  have hmember : readMemberValue value (gap ++ ':' :: (mid ++ s)) =
      readMemberValue value (':' :: s) := by
    rw [readMemberValue, readMemberValue, readColon_append hgap, readColon_colon, ok_bind, ok_bind,
      hvalue]
  rw [fill, fill, hmember]

theorem skipMember_append {gap mid : List Char} (hgap : Spaces gap) (hmid : Spaces mid)
    (s : List Char) : skipMember (gap ++ ':' :: (mid ++ s)) = skipMember (':' :: s) := by
  rw [skipMember, skipMember, readColon_append hgap, readColon_colon, ok_bind, ok_bind, skipValue,
    hmid.skip rfl, skipValue]

/-- A name that is read leaves its member to be taken. -/
theorem readMembersFrom_some {fuel : Nat} {first : Bool} {s r : List Char} {key : String}
    (h : nextKey? first s = .ok (some (key, r))) :
    readMembersFrom member (fuel + 1) first start s = (do
      let (state, r) ← member start key r
      readMembersFrom member fuel false state r) := by
  rw [readMembersFrom, h]
  rfl

/-- **A member is read**: what is left are the blanks behind it. -/
theorem MemberText.exists_readMembersFrom (hmember : IgnoresSpaces member)
    {s text gap rest : List Char} {name : String} {next : σ} (h : MemberText s (name, text))
    (head : ∀ rest, Stops rest → member start name (':' :: (text ++ rest)) = .ok (next, rest))
    (hgap : Spaces gap) (hrest : Stops rest) (fuel : Nat) (first : Bool) :
    ∃ after, Spaces after ∧
      readMembersFrom member (fuel + 1) first start (gap ++ (nameLead first ++ (s ++ rest))) =
        readMembersFrom member fuel false next (after ++ rest) := by
  obtain @⟨before, body, colon, mid, _, after, _, hlead, hbody, hcolon, hmid, -, htrail⟩ := h
  have hname := @nextKey?_spelled first _ _ _ _ hgap hlead hbody
  have htaken := head (after ++ rest) (htrail.stops hrest)
  refine ⟨after, htrail, ?_⟩
  simp only [List.append_assoc, List.cons_append]
  rw [readMembersFrom_some (hname _), hmember _ _ _ hcolon hmid, htaken, ok_bind]

/-- **Members are read one after another**, by induction on their number. What is left are the
blanks behind the last of them and the closing brace. -/
theorem MembersText.exists_readMembersFrom (hmember : IgnoresSpaces member) {s : List Char}
    (h : MembersText s ms) (rest : List Char) :
    ∀ {start : σ} {fuel : Nat} {first : Bool} {gap : List Char}, Fills member start ms last →
      ms.length < fuel → Spaces gap → ∃ after, Spaces after ∧
        readMembersFrom member fuel first start
          (gap ++ (nameLead first ++ (s ++ '\x7d' :: rest))) =
            .ok (last, after ++ '\x7d' :: rest) := by
  induction h with
  | @last s m hm =>
    intro start fuel first gap hfills hfuel hgap
    obtain ⟨fuel, rfl⟩ := Nat.exists_eq_add_of_le' (show 2 ≤ fuel from hfuel)
    cases hfills with
    | cons head tail =>
      cases tail
      obtain ⟨after, hafter, hread⟩ := hm.exists_readMembersFrom hmember head hgap
        (stops_brace rest) (fuel + 1) first
      refine ⟨after, hafter, hread.trans ?_⟩
      simp [readMembersFrom, nextKey?_append hafter, nextKey?_brace, ok_bind, pure_ok]
  | @more s t m ms hm members ih =>
    intro start fuel first gap hfills hfuel hgap
    obtain ⟨fuel, rfl⟩ := Nat.exists_eq_add_one_of_ne_zero (Nat.ne_zero_of_lt hfuel)
    cases hfills with
    | cons head tail =>
      obtain ⟨blanks, hblanks, hread⟩ := hm.exists_readMembersFrom hmember head hgap
        (stops_comma (t ++ '\x7d' :: rest)) fuel first
      -- the comma in front of the next name stands behind the blanks of this member
      obtain ⟨after, hafter, hmore⟩ :=
        @ih _ fuel false blanks tail (Nat.lt_of_succ_lt_succ hfuel) hblanks
      refine ⟨after, hafter, ?_⟩
      rw [List.append_assoc, List.cons_append]
      exact hread.trans hmore

/-- Every member takes a character. -/
theorem MembersText.length_le {s : List Char} (h : MembersText s ms) : ms.length ≤ s.length := by
  induction h with
  | last member =>
    obtain ⟨-, -, -, -, -, -⟩ := member
    simp only [List.length_append, List.length_cons, List.length_nil]
    omega
  | more member members ih =>
    simp only [List.length_append, List.length_cons]
    omega

/-- **The members of an object are read**, and what is left ends the text. -/
theorem ObjectText.exists_readMembers (hmember : IgnoresSpaces member) {text : List Char}
    (h : ObjectText text ms) (hfills : Fills member start ms last) :
    ∃ before s blanks after, text = before ++ '\x7b' :: s ∧ Spaces before ∧ Spaces blanks ∧
      Spaces after ∧ readMembers member start s = .ok (last, blanks ++ '\x7d' :: after) := by
  cases h with
  | @empty before gap after lead blank trail =>
    cases hfills
    refine ⟨before, _, gap, after, rfl, lead, blank, trail, ?_⟩
    simp [readMembers, readMembersFrom, nextKey?_append blank, nextKey?_brace, ok_bind,
      pure_ok]
  | @members before s after _ lead members trail =>
    have hfuel : ms.length < (s ++ '\x7d' :: after).length + 1 := by
      have hlength := members.length_le
      simp only [List.length_append]
      omega
    obtain ⟨blanks, hblanks, hread⟩ := @MembersText.exists_readMembersFrom _ _ _ _ hmember _
      members after _ _ true [] hfills hfuel spaces_nil
    exact ⟨before, _, blanks, after, rfl, lead, hblanks, trail, hread⟩

/-- **A record is read from an object in any layout.** -/
theorem ObjectText.readWholeText_record {α : Type} (hmember : IgnoresSpaces member)
    {text : List Char} (h : ObjectText text ms) (hfills : Fills member start ms last)
    (name : String) (fields : Reader α) (finish : σ → α) :
    readWholeText (readRecord name fields fun s => do
      let (state, s) ← readMembers member start s
      return (finish state, s)) text = .ok (finish last) := by
  obtain ⟨before, s, blanks, after, rfl, hbefore, hblanks, hafter, hread⟩ :=
    h.exists_readMembers hmember hfills
  have hopen : skipSpace (before ++ '\x7b' :: s) = '\x7b' :: s := by
    rw [skipSpace_append hbefore, skipSpace_cons (by decide)]
  have hclose : closeObject (blanks ++ '\x7d' :: after) = .ok after :=
    closeObject_append hblanks after
  have hend : skipSpace after = [] := by simpa using skipSpace_append hafter []
  simp [readWholeText, readRecord, hopen, hread, hclose, hend, ok_bind, pure_ok]

end Members

end KeyPlan.Json
