import KeyPlan.Console.Command
import KeyPlan.Proofs.Trimming

/-!
# What a line of the console asks for

A line is a word and its argument, with blanks around them and between the two. The word says what
is asked for. An instruction is cut from its description at the first bar between blanks. All of this
is said here by the parts of the line, and it is what a line is read as.

## Main definitions

* `Text.TrimsTo`: a text and what is left between the blanks at its ends
* `Command.CutsTo`: an argument and the instruction and description in it
* `Command.Means`: what a word and its argument ask for
* `Command.Spells`: a line and the word and argument in it
* `Command.Asks`: what a line asks for

## Main results

* `Text.cutAtBlank?_append`, `Text.cutAt?_eq_some_iff`: where a text is cut
* `Command.asks_iff`: a line is read as what it asks for
-/

namespace KeyPlan

namespace Text

/-! ## Trimming and cutting -/

/-- **What is left of a text** between the blanks at its ends. -/
def TrimsTo (s t : List Char) : Prop :=
  ∃ before after, s = before ++ t ++ after ∧ Blank before ∧ Blank after ∧ (t = [] ∨ Solid t)

theorem trimsTo_iff {s t : List Char} : TrimsTo s t ↔ trim s = t := by
  constructor
  · rintro ⟨before, after, rfl, hbefore, hafter, ht⟩
    rw [trim_of_blank hbefore hafter]
    rcases ht with rfl | ht
    · rfl
    · exact ht.trim_eq
  · rintro rfl
    obtain ⟨before, after, hs, hbefore, hafter⟩ := exists_trim s
    exact ⟨before, after, hs, hbefore, hafter, or_iff_not_imp_left.mpr Solid.trim⟩

/-- **A text is cut at its first blank.** -/
theorem cutAtBlank?_append {head : List Char} {b : Char} (h : ∀ c ∈ head, isBlank c = false)
    (hb : isBlank b = true) (rest : List Char) :
    cutAtBlank? (head ++ b :: rest) = some (head, rest) := by
  induction head with
  | nil => rw [List.nil_append, cutAtBlank?, if_pos hb]
  | cons c head ih =>
    obtain ⟨hc, hhead⟩ := List.forall_mem_cons.mp h
    rw [List.cons_append, cutAtBlank?, if_neg (Bool.eq_false_iff.mp hc), ih hhead]
    rfl

theorem exists_of_cutAtBlank? {s head rest : List Char}
    (h : cutAtBlank? s = some (head, rest)) :
    ∃ b, s = head ++ b :: rest ∧ isBlank b = true ∧ ∀ c ∈ head, isBlank c = false := by
  induction s generalizing head with
  | nil => exact nomatch h
  | cons c s ih =>
    rw [cutAtBlank?] at h
    split at h
    · next hc =>
      obtain ⟨rfl, rfl⟩ := Prod.mk.inj (Option.some.inj h)
      exact ⟨c, rfl, hc, List.forall_mem_nil _⟩
    · next hc =>
      obtain ⟨⟨head', rest'⟩, hcut, heq⟩ := Option.map_eq_some_iff.mp h
      obtain ⟨rfl, rfl⟩ := Prod.mk.inj heq
      obtain ⟨b, rfl, hb, hhead⟩ := ih hcut
      exact ⟨b, rfl, hb, List.forall_mem_cons.mpr ⟨Bool.eq_false_iff.mpr hc, hhead⟩⟩

theorem cutAtBlank?_eq_none_iff {s : List Char} :
    cutAtBlank? s = none ↔ ∀ c ∈ s, isBlank c = false := by
  induction s with
  | nil => simp [cutAtBlank?]
  | cons c s ih =>
    rw [cutAtBlank?]
    by_cases hc : isBlank c = true <;> simp [hc, ih]

section Separator

variable {sep s head rest : List Char}

/-- A text that is cut has the separator between its parts, and not before. -/
theorem of_cutAt? (hsep : sep ≠ []) (h : cutAt? sep s = some (head, rest)) :
    s = head ++ sep ++ rest ∧
      ∀ head' rest', s = head' ++ sep ++ rest' → head.length ≤ head'.length := by
  induction s generalizing head with
  | nil => simp [cutAt?, hsep] at h
  | cons c s ih =>
    rw [cutAt?] at h
    split at h
    · next hhere =>
      obtain ⟨more, hmore⟩ := List.isPrefixOf_iff_prefix.mp hhere
      obtain ⟨rfl, rfl⟩ := Prod.mk.inj (Option.some.inj h)
      refine ⟨?_, fun head' rest' _ => Nat.zero_le _⟩
      rw [← hmore, List.drop_left, List.nil_append]
    · next hhere =>
      -- it does not stand here, so no place is before those behind
      obtain ⟨⟨head', rest'⟩, hcut, heq⟩ := Option.map_eq_some_iff.mp h
      obtain ⟨rfl, rfl⟩ := Prod.mk.inj heq
      obtain ⟨hs, hfirst⟩ := ih hcut
      refine ⟨congrArg (c :: ·) hs, fun front behind hfront => ?_⟩
      cases front with
      | nil => exact absurd (List.isPrefixOf_iff_prefix.mpr ⟨behind, hfront.symm⟩) hhere
      | cons d front => exact Nat.succ_le_succ (hfirst front behind (List.cons.inj hfront).2)

theorem cutAt?_eq_none_iff (hsep : sep ≠ []) : cutAt? sep s = none ↔ ¬ sep <:+: s := by
  induction s with
  | nil => simp [cutAt?, hsep]
  | cons c s ih =>
    rw [cutAt?, List.infix_cons_iff]
    by_cases hhere : sep.isPrefixOf (c :: s) = true
    · simp [hhere, List.isPrefixOf_iff_prefix.mp hhere]
    · simp [hhere, mt List.isPrefixOf_iff_prefix.mpr hhere, ih]

/-- **A text is cut at the first place** where the separator stands. -/
theorem cutAt?_eq_some_iff (hsep : sep ≠ []) : cutAt? sep s = some (head, rest) ↔
    s = head ++ sep ++ rest ∧
      ∀ head' rest', s = head' ++ sep ++ rest' → head.length ≤ head'.length := by
  constructor
  · exact of_cutAt? hsep
  · rintro ⟨hs, hfirst⟩
    cases hcut : cutAt? sep s with
    | none => exact absurd ⟨head, rest, hs.symm⟩ ((cutAt?_eq_none_iff hsep).mp hcut)
    | some parts =>
      obtain ⟨head', rest'⟩ := parts
      -- two first places are the same
      obtain ⟨hs', hfirst'⟩ := of_cutAt? hsep hcut
      have hlength : head'.length = head.length :=
        Nat.le_antisymm (hfirst' head rest hs) (hfirst head' rest' hs')
      rw [hs', List.append_assoc, List.append_assoc] at hs
      obtain ⟨rfl, hbehind⟩ := List.append_inj hs hlength
      rw [List.append_cancel_left hbehind]

end Separator

end Text

namespace Command

open Text (Blank Solid TrimsTo isBlank trim cutAtBlank?)

/-! ## Instruction and description -/

/-- **The instruction and the description in an argument**, which are cut at the first bar between
blanks and trimmed. Without such a bar there is no description. -/
inductive CutsTo (argument : List Char) : List Char → List Char → Prop where
  | whole (h : ¬ [' ', '|', ' '] <:+: argument) : CutsTo argument argument []
  | bar {before after instruction description : List Char}
      (h : argument = before ++ [' ', '|', ' '] ++ after)
      (hfirst : ∀ before' after', argument = before' ++ [' ', '|', ' '] ++ after' →
        before.length ≤ before'.length)
      (hinstruction : TrimsTo before instruction) (hdescription : TrimsTo after description) :
      CutsTo argument instruction description

theorem cutsTo_iff {argument instruction description : List Char} :
    CutsTo argument instruction description ↔
      cutStep argument = (instruction, description) := by
  have hsep : bar ≠ [] := List.cons_ne_nil _ _
  constructor
  · rintro (h | ⟨h, hfirst, hinstruction, hdescription⟩)
    · rw [cutStep, (Text.cutAt?_eq_none_iff hsep).mpr h]
    · rw [cutStep, (Text.cutAt?_eq_some_iff hsep).mpr ⟨h, hfirst⟩]
      simp only [Text.trimsTo_iff.mp hinstruction, Text.trimsTo_iff.mp hdescription]
  · intro h
    rw [cutStep] at h
    split at h
    · next before after hcut =>
      obtain ⟨rfl, rfl⟩ := Prod.mk.inj h
      obtain ⟨hargument, hfirst⟩ := (Text.cutAt?_eq_some_iff hsep).mp hcut
      exact .bar hargument hfirst (Text.trimsTo_iff.mpr rfl) (Text.trimsTo_iff.mpr rfl)
    · next hcut =>
      obtain ⟨rfl, rfl⟩ := Prod.mk.inj h
      exact .whole ((Text.cutAt?_eq_none_iff hsep).mp hcut)

/-! ## Words -/

/-- The words that ask for something. -/
def words : List String :=
  ["help", "quit", "exit", "add", "load", "list", "clear", "speed", "save", "apps", "grant", "run"]

/-- **What a word and its argument ask for.** -/
inductive Means (argument : List Char) : String → Command → Prop where
  | help : Means argument "help" help
  | quit : Means argument "quit" quit
  | exit : Means argument "exit" quit
  | addNothing (h : argument = []) : Means argument "add" addNothing
  | add {instruction description : List Char} (h : argument ≠ [])
      (hcut : CutsTo argument instruction description) :
      Means argument "add" (add (String.ofList instruction) (String.ofList description))
  | loadNothing (h : argument = []) : Means argument "load" loadNothing
  | load (h : argument ≠ []) : Means argument "load" (load (String.ofList argument))
  | list : Means argument "list" list
  | clear : Means argument "clear" clear
  | speed : Means argument "speed" (speed (String.ofList argument))
  | save : Means argument "save" save
  | apps : Means argument "apps" apps
  | grant : Means argument "grant" grant
  | run (h : argument = []) : Means argument "run" (run none)
  | runBehind (h : argument ≠ []) : Means argument "run" (run (some (String.ofList argument)))
  | unknown {word : String} (h : word ∉ words) : Means argument word unknown

theorem means_iff {argument : List Char} {word : String} {command : Command} :
    Means argument word command ↔ ofWord word argument = command := by
  constructor
  · intro h
    cases h with
    | addNothing h => simp [ofWord, h]
    | add h hcut => simp [ofWord, h, cutsTo_iff.mp hcut]
    | loadNothing h => simp [ofWord, h]
    | load h => simp [ofWord, h]
    | run h => simp [ofWord, h]
    | runBehind h => simp [ofWord, h]
    | unknown h =>
      simp only [words, List.mem_cons, List.not_mem_nil, or_false, not_or] at h
      simp [ofWord, h]
    | _ => simp [ofWord]
  · rintro rfl
    -- each word has its constructor, and every other one is unknown
    by_cases hword : word ∈ words
    · simp only [words, List.mem_cons, List.not_mem_nil, or_false] at hword
      rcases hword with rfl | rfl | rfl | rfl | rfl | rfl | rfl | rfl | rfl | rfl | rfl | rfl
      · exact .help
      · exact .quit
      · exact .exit
      · cases argument with
        | nil => exact .addNothing rfl
        | cons c argument => exact .add (List.cons_ne_nil _ _) (cutsTo_iff.mpr rfl)
      · cases argument with
        | nil => exact .loadNothing rfl
        | cons c argument => exact .load (List.cons_ne_nil _ _)
      · exact .list
      · exact .clear
      · exact .speed
      · exact .save
      · exact .apps
      · exact .grant
      · cases argument with
        | nil => exact .run rfl
        | cons c argument => exact .runBehind (List.cons_ne_nil _ _)
    · have hunknown : ofWord word argument = unknown := by
        simp only [words, List.mem_cons, List.not_mem_nil, or_false, not_or] at hword
        simp [ofWord, hword]
      rw [hunknown]
      exact .unknown hword

/-! ## Lines -/

/-- **The word and the argument of a line**: blanks stand around them, and between the two if there
is an argument. -/
structure Spells (line word argument : List Char) : Prop where
  ne_nil : word ≠ []
  unbroken : ∀ c ∈ word, isBlank c = false
  trimmed : argument = [] ∨ Solid argument
  parts : ∃ before gap after, line = before ++ word ++ gap ++ argument ++ after ∧
    Blank before ∧ Blank gap ∧ Blank after ∧ (argument ≠ [] → gap ≠ [])

/-- **What a line asks for.** -/
inductive Asks (line : List Char) : Command → Prop where
  | blank (h : Blank line) : Asks line blank
  | word {word argument : List Char} {command : Command} (h : Spells line word argument)
      (hcommand : Means argument (String.ofList word) command) : Asks line command

/-- **A line is a word and its argument** unless it is blank. -/
theorem exists_spells {line : List Char} (h : ¬ Blank line) :
    ∃ word argument, Spells line word argument := by
  obtain ⟨before, after, hline, hbefore, hafter⟩ := Text.exists_trim line
  have hne : trim line ≠ [] := by
    intro hnil
    rw [hnil, List.append_nil] at hline
    exact h (hline ▸ hbefore.append hafter)
  cases hcut : cutAtBlank? (trim line) with
  | none =>
    -- the word is all there is
    refine ⟨trim line, [], hne, Text.cutAtBlank?_eq_none_iff.mp hcut, .inl rfl,
      before, [], after, ?_, hbefore, List.forall_mem_nil _, hafter, fun h => absurd rfl h⟩
    simpa using hline
  | some cut =>
    obtain ⟨word, rest⟩ := cut
    obtain ⟨b, htrim, hb, hword⟩ := Text.exists_of_cutAtBlank? hcut
    obtain ⟨between, behind, hrest, hbetween, hbehind⟩ := Text.exists_trim rest
    have hnonempty : word ≠ [] := by
      rintro rfl
      -- a trimmed line does not begin with a blank
      obtain ⟨c, hc, hblank⟩ := (Solid.trim hne).head
      rw [htrim] at hc
      obtain rfl := Option.some.inj hc
      exact absurd hb (by simp [hblank])
    refine ⟨word, trim rest, hnonempty, hword, or_iff_not_imp_left.mpr Solid.trim, before,
      b :: between, behind ++ after, ?_, hbefore, List.forall_mem_cons.mpr ⟨hb, hbetween⟩,
      hbehind.append hafter, fun _ => List.cons_ne_nil _ _⟩
    rw [htrim, hrest] at hline
    simpa using hline

/-- A word and its argument are read as such. -/
theorem Spells.ofLine_eq {line word argument : List Char} (h : Spells line word argument) :
    ofLine line = ofWord (String.ofList word) argument := by
  obtain ⟨hne, hword, hargument, before, gap, after, rfl, hbefore, hgap, hafter, hapart⟩ := h
  have hsolid : Solid word := Solid.of_forall hne hword
  rcases hargument with rfl | hargument
  · have htrim : trim (before ++ word ++ gap ++ [] ++ after) = word := by
      have hblanks : before ++ word ++ gap ++ [] ++ after =
          before ++ word ++ (gap ++ after) := by simp
      rw [hblanks, Text.trim_of_blank hbefore (hgap.append hafter), hsolid.trim_eq]
    rw [ofLine, htrim, Text.cutAtBlank?_eq_none_iff.mpr hword]
    simp [hne]
  · -- the word ends at the first blank of the gap
    obtain ⟨b, gap, rfl⟩ := List.exists_cons_of_ne_nil (hapart hargument.ne_nil)
    obtain ⟨hb, hgap⟩ := List.forall_mem_cons.mp hgap
    have hlast : ∃ d, (b :: gap ++ argument).getLast? = some d ∧ isBlank d = false := by
      obtain ⟨d, hd, hdblank⟩ := hargument.last
      exact ⟨d, by rw [List.getLast?_append, hd, Option.some_or], hdblank⟩
    have htrim : trim (before ++ word ++ b :: gap ++ argument ++ after) =
        word ++ b :: (gap ++ argument) := by
      have hparts : before ++ word ++ b :: gap ++ argument ++ after =
          before ++ (word ++ (b :: gap ++ argument)) ++ after := by simp
      rw [hparts, Text.trim_of_blank hbefore hafter, (Solid.append hsolid.head hlast).trim_eq]
      rfl
    have hcut : cutAtBlank? (word ++ b :: (gap ++ argument)) = some (word, gap ++ argument) :=
      Text.cutAtBlank?_append hword hb _
    have hrest : trim (gap ++ argument) = argument := by
      have hblanks := Text.trim_of_blank hgap (List.forall_mem_nil _) argument
      rw [List.append_nil] at hblanks
      rw [hblanks, hargument.trim_eq]
    have hempty : (word ++ b :: (gap ++ argument)).isEmpty = false := by simp
    rw [ofLine, htrim]
    simp only [hempty, Bool.false_eq_true, if_false, hcut, hrest]

/-- **A line is read as what it asks for.** -/
theorem asks_iff {line : List Char} {command : Command} :
    Asks line command ↔ ofLine line = command := by
  constructor
  · rintro (h | ⟨h, hcommand⟩)
    · rw [ofLine, h.trim_eq]
      rfl
    · rw [h.ofLine_eq]
      exact means_iff.mp hcommand
  · rintro rfl
    by_cases hblank : Blank line
    · rw [ofLine, hblank.trim_eq]
      exact .blank hblank
    · obtain ⟨word, argument, h⟩ := exists_spells hblank
      rw [h.ofLine_eq]
      exact .word h (means_iff.mpr rfl)

end Command

end KeyPlan
