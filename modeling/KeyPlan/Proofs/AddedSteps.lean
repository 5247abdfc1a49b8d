import KeyPlan.Proofs.Script

/-!
# Steps that are added at the console

A step is added by a line with its instruction, a bar between blanks, and its description. The line
is trimmed before it is cut at the bar. If the description is blank, the blank behind the bar is
trimmed away with it; then the line is not cut, and the bar becomes a part of the instruction. In
every other case both parts come out as they were meant.

## Main definitions

* `Command.Addable`: instructions that such a line can carry
* `Command.addLine`: the line that adds a step
* `Command.keptInstruction`: the instruction that the line is taken for

## Main results

* `Command.cutAt?_bar`: where a text is cut at a bar
* `Command.ofLine_addLine`: what the line asks for
* `Console.follow_addLine`: what the line does to the console
-/

namespace KeyPlan

namespace Command

open Text (Blank Solid isBlank trim trimEnd cutAt? cutAtBlank?)

/-! ## Cutting at a bar -/

/-- **A text is not cut before it has a bar behind a blank**, nor at its end if what follows does
not start with the bar. -/
theorem cutAt?_bar {s t : List Char} (hs : ¬ [' ', '|'] <:+: s) (ht : t.head? ≠ some '|') :
    cutAt? bar (s ++ t) = (cutAt? bar t).map fun (head, rest) => (s ++ head, rest) := by
  induction s with
  | nil => simp
  | cons c s ih =>
    have hhere : ¬ bar.isPrefixOf (c :: (s ++ t)) = true := by
      intro h
      obtain ⟨rfl, hnext⟩ := List.cons_prefix_cons.mp (List.isPrefixOf_iff_prefix.mp h)
      -- the bar would be the next character, here or in what follows
      cases s with
      | nil =>
        obtain ⟨rest, hrest⟩ := hnext
        exact ht (congrArg List.head? hrest.symm)
      | cons d s =>
        obtain ⟨rfl, -⟩ := List.cons_prefix_cons.mp hnext
        exact hs ⟨[], s, rfl⟩
    rw [List.cons_append, cutAt?, if_neg hhere, ih fun h => hs (List.infix_cons h),
      Option.map_map]
    rfl

/-! ## The line that adds a step -/

/-- **An instruction that a line can carry**: trimmed, not empty, and without a bar behind a
blank. -/
structure Addable (instruction : List Char) : Prop where
  ne_nil : instruction ≠ []
  trimmed : trim instruction = instruction
  bar : ¬ [' ', '|'] <:+: instruction

/-- **The line that adds a step.** -/
def addLine (instruction description : String) : String :=
  "add " ++ instruction ++ " | " ++ description

/-- **The instruction that the line is taken for**: it ends with the bar if only blanks follow. -/
def keptInstruction (instruction description : String) : String :=
  if Blank description.toList then instruction ++ " |" else instruction

/-- The argument of the line when it is trimmed. -/
def addArgument (instruction description : String) : List Char :=
  instruction.toList ++ [' ', '|'] ++ trimEnd (' ' :: description.toList)

variable {instruction : String}

theorem Addable.solid {s : List Char} (h : Addable s) : Solid s :=
  Solid.of_trim_eq h.trimmed h.ne_nil

/-- The instruction with its bar is trimmed. -/
theorem Addable.solid_bar {s : List Char} (h : Addable s) : Solid (s ++ [' ', '|']) :=
  Solid.append h.solid.head ⟨'|', rfl, by decide⟩

/-- **The line that adds a step is trimmed** behind its bar. -/
theorem trim_addLine (h : Addable instruction.toList) (description : String) :
    trim (addLine instruction description).toList =
      "add".toList ++ ' ' :: addArgument instruction description := by
  have hline : (addLine instruction description).toList =
      ("add ".toList ++ (instruction.toList ++ [' ', '|'])) ++ ' ' :: description.toList := by
    simp [addLine]
  have hsolid : Solid ("add ".toList ++ (instruction.toList ++ [' ', '|'])) :=
    Solid.append ⟨'a', rfl, by decide⟩ h.solid_bar.last
  rw [hline, hsolid.trim_append]
  simp [addArgument]

/-- The argument is trimmed once more, which changes nothing. -/
theorem trim_addArgument (h : Addable instruction.toList) (description : String) :
    trim (addArgument instruction description) = addArgument instruction description := by
  rw [addArgument, h.solid_bar.trim_append, Text.trimEnd_trimEnd]

/-- **The two parts of the argument**: it is cut only if a blank is left behind the bar. -/
theorem cutStep_addArgument (h : Addable instruction.toList) (description : String) :
    cutStep (addArgument instruction description) =
      ((keptInstruction instruction description).toList, trim description.toList) := by
  rw [addArgument, Text.trimEnd_cons_blank (by decide), keptInstruction]
  by_cases hblank : Blank description.toList
  · have hnone : cutAt? bar (instruction.toList ++ [' ', '|']) = none := by
      rw [cutAt?_bar h.bar (by decide)]
      rfl
    simp [hblank, cutStep, hnone, hblank.trim_eq]
  · have hcut : cutAt? bar (instruction.toList ++ [' ', '|'] ++ ' ' :: trimEnd description.toList) =
        some (instruction.toList, trimEnd description.toList) := by
      have hargument : instruction.toList ++ [' ', '|'] ++ ' ' :: trimEnd description.toList =
          instruction.toList ++ (bar ++ trimEnd description.toList) := by simp [bar]
      have hbar : cutAt? bar (bar ++ trimEnd description.toList) =
          some ([], trimEnd description.toList) := rfl
      rw [hargument, cutAt?_bar h.bar (by simp [bar]), hbar]
      simp
    simp only [if_neg hblank, cutStep, hcut, h.trimmed, Text.trim_trimEnd]

/-- **What the line asks for**: a step with the trimmed description. -/
theorem ofLine_addLine (h : Addable instruction.toList) (description : String) :
    ofLine (addLine instruction description).toList =
      add (keptInstruction instruction description)
        (String.ofList (trim description.toList)) := by
  have hcut (s : List Char) :
      cutAtBlank? ("add".toList ++ ' ' :: s) = some ("add".toList, s) := rfl
  have hne : (addArgument instruction description).isEmpty = false := by simp [addArgument]
  rw [ofLine, trim_addLine h, hcut]
  simp [trim_addArgument h, ofWord, cutStep_addArgument h, hne]

end Command

namespace Console

open Command (Addable addLine keptInstruction)
open Text (Blank trim encodeUtf8)

/-- The step that the line adds. -/
def addedStep (c : Console) (instruction description : String) : Step :=
  ⟨"step " ++ toString (c.queue.length + 1), keptInstruction instruction description,
    String.ofList (trim description.toList)⟩

/-- What is printed when a step is added to a queue of `n` steps. -/
def addedText (n : Nat) : String :=
  printed ["➕ Queued (" ++ toString (n + 1) ++ " total)"] ++ prompt

/-- The console after such a line. -/
theorem follow_add (setup : Setup) (c : Console) {instruction description : String}
    (h : Addable instruction.toList) (output : String) {line : List UInt8}
    (hline : asked? line = some (Command.ofLine (addLine instruction description).toList))
    (lines : List (List UInt8)) :
    follow setup c output (line :: lines) =
      follow setup { c with queue := c.queue ++ [c.addedStep instruction description] }
        (output ++ addedText c.queue.length) lines := by
  rw [Command.ofLine_addLine h] at hline
  rw [follow_goesOn hline rfl]
  simp [perform, add, addedStep, addedText]

theorem feed_not_mem_addLine {instruction description : String}
    (hinstruction : '\n' ∉ instruction.toList) (hdescription : '\n' ∉ description.toList) :
    '\n' ∉ (addLine instruction description).toList := by
  simp [addLine, hinstruction, hdescription]

/-- **A line that adds a step queues exactly one**, and the console goes on with the lines behind
it: the description is trimmed, and the instruction is what it was if anything but blanks follows
its bar. Otherwise it has the bar at its end. A list and a run see what is read from these two. -/
theorem follow_addLine (setup : Setup) (c : Console) {instruction description : String}
    (h : Addable instruction.toList) (hinstruction : '\n' ∉ instruction.toList)
    (hdescription : '\n' ∉ description.toList) (output : String) (more : List Char) :
    let line := (addLine instruction description).toList
    let instruction' := if Blank description.toList then instruction ++ " |" else instruction
    let description' := String.ofList (trim description.toList)
    let step := ⟨"step " ++ toString (c.queue.length + 1), instruction', description'⟩
    let queued := { c with queue := c.queue ++ [step] }
    let output' := output ++ addedText c.queue.length
    follow setup c output (inputLines (encodeUtf8 line)) = ⟨output', none, queued⟩ ∧
      follow setup c output (inputLines (encodeUtf8 (line ++ '\n' :: more))) =
        follow setup queued output' (inputLines (encodeUtf8 more)) ∧
      Step.actions queued.queue = Step.actions c.queue ++
        (Instruction.parse instruction' description').toOption.toList := by
  intro line instruction' description' step queued output'
  have hline : '\n' ∉ line := feed_not_mem_addLine hinstruction hdescription
  have hoctets : 10 ∉ encodeUtf8 line := mt (Text.mem_encodeUtf8_iff line).mp hline
  refine ⟨?_, ?_, ?_⟩
  · -- the last line of the input
    have hne : encodeUtf8 line ≠ [] := by
      refine mt Text.encodeUtf8_eq_nil_iff.mp ?_
      simp [line, addLine]
    rw [inputLines_of_not_mem hoctets, List.isEmpty_eq_false_iff.mpr hne]
    exact follow_add setup c h output (asked?_encodeUtf8 line) []
  · -- its line feed is a blank at the end of the line
    rw [inputLines_encodeUtf8_feed hline]
    exact follow_add setup c h output (asked?_encodeUtf8_feed line) _
  · rw [Step.actions_append]
    rfl

/-- A bar in front of a tabulator in the instruction, and bars in the description. -/
theorem follow_addLine_bars :
    let setup : Setup := { read := fun _ _ => .absent .missing, settingsPath := none }
    let line := (addLine "TEXT:a|\t|b" " | one | two | ").toList
    let console := (follow setup { settings := Settings.normal } "> "
      (inputLines (encodeUtf8 line))).console
    (Addable "TEXT:a|\t|b".toList ∧ '\n' ∉ "TEXT:a|\t|b".toList ∧
      '\n' ∉ " | one | two | ".toList) ∧
      console.queue = [⟨"step 1", "TEXT:a|\t|b", "| one | two |"⟩] := by
  intro setup line console
  have hbar : ¬ [' ', '|'] <:+: "TEXT:a|\t|b".toList := mt Text.occursIn_iff.mpr (by decide)
  have h : Addable "TEXT:a|\t|b".toList := ⟨by decide, by decide, hbar⟩
  have hinstruction : '\n' ∉ "TEXT:a|\t|b".toList := by decide
  have hdescription : '\n' ∉ " | one | two | ".toList := by decide
  obtain ⟨hlast, -, -⟩ := follow_addLine setup { settings := Settings.normal } h hinstruction
    hdescription "> " []
  refine ⟨⟨h, hinstruction, hdescription⟩, ?_⟩
  change (follow setup _ _ (inputLines (encodeUtf8 line))).console.queue = _
  rw [hlast]
  decide +kernel

/-- An empty description leaves the bar to the instruction, where it is taken for the key. -/
theorem empty_description_keeps_bar :
    let setup : Setup := { read := fun _ _ => .absent .missing, settingsPath := none }
    let line := (addLine "⌘ c" "").toList
    let console := (follow setup { settings := Settings.normal } "> "
      (inputLines (encodeUtf8 line))).console
    Addable "⌘ c".toList ∧ console.queue ≠ [⟨"step 1", "⌘ c", ""⟩] ∧
      Step.actions console.queue ≠ Step.actions [⟨"step 1", "⌘ c", ""⟩] := by
  intro setup line console
  have hbar : ¬ [' ', '|'] <:+: "⌘ c".toList := mt Text.occursIn_iff.mpr (by decide)
  refine ⟨⟨by decide, by decide, hbar⟩, ?_, ?_⟩ <;> decide +kernel

end Console

end KeyPlan
