import KeyPlan.Proofs.JsonText
import KeyPlan.Proofs.Removal
import KeyPlan.Step.Json

/-!
# Plans that are read back

A plan that was written as JSON has neither prose nor fences around it, so what is cut away before
reading is nothing but the fences that stand in the texts of its steps. A written string shows them
as they are, and no match reaches from one string into another. Hence a plan is read back with just
these fences lost, and a plan without them is read back as it was.

## Main definitions

* `Json.IsMark`: what a written string shows as it is
* `Step.mapTexts`, `Step.unfenced`: a step with changed texts, and one without fences

## Main results

* `Json.IsMark.removeAll_writeString`: a mark removed from a written string
* `Step.removeAll_writeAll`: a mark removed from a written plan
* `Step.cutList_append`: a text is cut out between its own brackets
* `Step.reads_writeAll`: a written plan is taken back
* `Step.decode_loses_only_fences`: a plan is read back without its fences
-/

namespace KeyPlan

open Text (removeAll removeAll_cons removeAll_append_cons removeAll_append_self
  removeAll_append_of_not_mem removeAll_sublist removeAll_eq_self_iff)

/-! ## Marks in written strings -/

namespace Json

/-- **A mark that a written string shows as it is**: it starts with a grave accent, and none of its
characters is escaped. -/
structure IsMark (mark : List Char) : Prop where
  head : ∃ more, mark = '\x60' :: more
  plain : ∀ c ∈ mark, escape c = [c]

/-- A character that is escaped is written without a grave accent, and with a backslash first. -/
theorem escape_eq_backslash {c : Char} (h : escape c ≠ [c]) :
    ∃ e, escape c = '\\' :: e ∧ '\x60' ∉ escape c := by
  rcases escape_cases c with ⟨e, he, hc⟩ | ⟨hcontrol, hc⟩ | ⟨-, -, -, hc⟩ <;> rw [hc]
  · have haccent : '\x60' ≠ e := by
      rintro rfl
      exact nomatch he
    exact ⟨[e], rfl, by simp [haccent]⟩
  · have hdigit : ∀ n < 16, '\x60' ≠ hexDigit n := by decide
    refine ⟨_, rfl, ?_⟩
    simp [hdigit (c.toNat / 16) (by omega), hdigit (c.toNat % 16) (by omega)]
  · exact absurd hc h

theorem flatMap_escape_eq_self {m : List Char} (h : ∀ c ∈ m, escape c = [c]) :
    m.flatMap escape = m := by
  induction m with
  | nil => rfl
  | cons c m ih =>
    rw [List.flatMap_cons, h c List.mem_cons_self, ih fun d hd => h d (List.mem_cons_of_mem c hd)]
    rfl

/-- Characters that are not escaped stand at the head of a written text where they stand at the head
of the text. -/
theorem isPrefix_flatMap_escape {s : List Char} :
    ∀ {m : List Char}, (∀ c ∈ m, escape c = [c]) → (m <+: s.flatMap escape ↔ m <+: s) := by
  induction s with
  | nil => exact fun _ => Iff.rfl
  | cons c s ih =>
    intro m hm
    cases m with
    | nil => simp
    | cons p m =>
      by_cases hc : escape c = [c]
      · rw [List.flatMap_cons, hc, List.singleton_append, List.cons_prefix_cons,
          List.cons_prefix_cons, ih fun d hd => hm d (List.mem_cons_of_mem p hd)]
      · -- a backslash is escaped itself, so it is not the first character
        obtain ⟨e, he, -⟩ := escape_eq_backslash hc
        have hp := hm p List.mem_cons_self
        rw [List.flatMap_cons, he, List.cons_append, List.cons_prefix_cons, List.cons_prefix_cons]
        refine iff_of_false (fun h => ?_) (fun h => hc (h.1 ▸ hp))
        exact absurd (h.1 ▸ hp) (by decide)

namespace IsMark

variable {mark : List Char} (h : IsMark mark)

include h

theorem ne_nil : mark ≠ [] := by
  obtain ⟨more, rfl⟩ := h.head
  exact List.cons_ne_nil _ more

theorem quote_not_mem : '"' ∉ mark := fun hmem => absurd (h.plain _ hmem) (by decide)

theorem removeAll_append {e : List Char} (he : '\x60' ∉ e) (s : List Char) :
    removeAll mark (e ++ s) = e ++ removeAll mark s := by
  obtain ⟨more, rfl⟩ := h.head
  exact removeAll_append_of_not_mem he s

theorem removeAll_cons {c : Char} (hc : '\x60' ≠ c) (s : List Char) :
    removeAll mark (c :: s) = c :: removeAll mark s :=
  h.removeAll_append (e := [c]) (by simpa using hc) s

/-- It is all the same whether a mark is removed before a text is written or afterwards. -/
theorem removeAll_flatMap_escape (s : List Char) :
    removeAll mark (s.flatMap escape) = (removeAll mark s).flatMap escape := by
  induction s using Text.removal_induction h.ne_nil with
  | nil => rfl
  | found s ih =>
    rw [List.flatMap_append, flatMap_escape_eq_self h.plain, removeAll_append_self h.ne_nil,
      removeAll_append_self h.ne_nil, ih]
  | kept c s hkept ih =>
    rw [Text.removeAll_cons hkept, List.flatMap_cons, List.flatMap_cons, ← ih]
    by_cases hc : escape c = [c]
    -- where the mark does not stand next in the text, it does not stand next in what is written
    · rw [hc]
      refine Text.removeAll_cons fun hp => hkept ?_
      rw [← isPrefix_flatMap_escape h.plain, List.flatMap_cons, hc]
      exact hp
    · obtain ⟨-, -, haccent⟩ := escape_eq_backslash hc
      exact h.removeAll_append haccent _

/-- **A mark removed from a written string** and from what follows it. -/
theorem removeAll_writeString (s : String) (rest : List Char) :
    removeAll mark (writeString s ++ rest) =
      writeString (String.ofList (removeAll mark s.toList)) ++ removeAll mark rest := by
  rw [writeString_append, writeString_append, h.removeAll_cons (by decide),
    removeAll_append_cons h.ne_nil h.quote_not_mem, h.removeAll_flatMap_escape,
    String.toList_ofList]

end IsMark

end Json

namespace Step

open Json (IsMark Reads Fills reads_string ok_bind pure_ok)

/-- The step with each of its texts changed. -/
def mapTexts (f : String → String) (s : Step) : Step :=
  ⟨f s.name, f s.instruction, f s.description⟩

/-- The texts of a step. -/
def texts (s : Step) : List String := [s.name, s.instruction, s.description]

/-- The text without a mark. -/
def unmark (mark : List Char) (text : String) : String :=
  String.ofList (removeAll mark text.toList)

/-- **The step without fences** in its texts. -/
def unfenced (s : Step) : Step := s.mapTexts fun text => unmark fence (unmark jsonFence text)

theorem mapTexts_eq_self_iff {f : String → String} {s : Step} :
    s.mapTexts f = s ↔ ∀ text ∈ s.texts, f text = text := by
  cases s
  simp [mapTexts, texts]

/-! ## What is cut away -/

theorem isMark_fence : IsMark fence := ⟨⟨_, rfl⟩, by simp [fence, Json.escape]⟩

theorem isMark_jsonFence : IsMark jsonFence :=
  ⟨⟨_, rfl⟩, by simp [jsonFence, fence, Json.escape]⟩

theorem write_append (s : Step) (rest : List Char) :
    s.write ++ rest =
      '\x7b' :: (Json.writeString "name" ++ ':' :: (Json.writeString s.name ++
        ',' :: (Json.writeString "instruction" ++ ':' :: (Json.writeString s.instruction ++
          ',' :: (Json.writeString "description" ++ ':' :: (Json.writeString s.description ++
            '\x7d' :: rest)))))) := by
  simp [write, Json.writeObject, Json.withCommas, Json.writeMember]

theorem removeAll_write {mark : List Char} (h : IsMark mark) (s : Step) (rest : List Char) :
    removeAll mark (s.write ++ rest) =
      (s.mapTexts (unmark mark)).write ++ removeAll mark rest := by
  have hname : '\x60' ∉ Json.writeString "name" := by decide
  have hinstruction : '\x60' ∉ Json.writeString "instruction" := by decide
  have hdescription : '\x60' ∉ Json.writeString "description" := by decide
  rw [write_append, write_append]
  simp only [h.removeAll_cons (show '\x60' ≠ '\x7b' by decide),
    h.removeAll_cons (show '\x60' ≠ ':' by decide), h.removeAll_cons (show '\x60' ≠ ',' by decide),
    h.removeAll_cons (show '\x60' ≠ '\x7d' by decide), h.removeAll_append hname,
    h.removeAll_append hinstruction, h.removeAll_append hdescription, h.removeAll_writeString,
    mapTexts, unmark]

theorem removeAll_withCommas {mark : List Char} (h : IsMark mark) (steps : List Step)
    (rest : List Char) :
    removeAll mark (Json.withCommas (steps.map write) ++ rest) =
      Json.withCommas ((steps.map (mapTexts (unmark mark))).map write) ++ removeAll mark rest := by
  induction steps with
  | nil => rfl
  | cons s steps ih =>
    cases steps with
    | nil => exact removeAll_write h s rest
    | cons t steps =>
      simp only [List.map_cons, Json.withCommas, List.append_assoc, List.cons_append] at ih ⊢
      rw [removeAll_write h, h.removeAll_cons (by decide), ih]

/-- **A mark removed from a written plan** is removed from the texts of its steps. -/
theorem removeAll_writeAll {mark : List Char} (h : IsMark mark) (steps : List Step) :
    removeAll mark (writeAll steps) = writeAll (steps.map (mapTexts (unmark mark))) := by
  rw [writeAll, Json.writeList, h.removeAll_cons (by decide), removeAll_withCommas h,
    h.removeAll_cons (by decide)]
  rfl

/-- The place of the first bracket of a kind. -/
theorem findIdx?_append_cons {c : Char} {s : List Char} (h : c ∉ s) (rest : List Char) :
    (s ++ c :: rest).findIdx? (· == c) = some s.length := by
  have hnone : s.findIdx? (· == c) = none := by
    rw [List.findIdx?_eq_none_iff]
    intro d hd
    exact beq_false_of_ne fun heq => h (heq ▸ hd)
  rw [List.findIdx?_append, hnone, List.findIdx?_cons]
  simp

/-- **A text is cut out between its own brackets** if no other opening bracket stands in front of it
and no other closing bracket behind it. -/
theorem cutList_append {before after : List Char} (hbefore : '[' ∉ before) (hafter : ']' ∉ after)
    (body : List Char) :
    cutList (before ++ '[' :: (body ++ ']' :: after)) = '[' :: (body ++ [']']) := by
  have hstart : (before ++ '[' :: (body ++ ']' :: after)).findIdx? (· == '[') =
      some before.length := findIdx?_append_cons hbefore _
  -- seen from the end, the closing bracket is the first one
  have hstop : (before ++ '[' :: (body ++ ']' :: after)).reverse.findIdx? (· == ']') =
      some after.length := by
    have hreverse : (before ++ '[' :: (body ++ ']' :: after)).reverse =
        after.reverse ++ ']' :: (body.reverse ++ '[' :: before.reverse) := by simp
    rw [hreverse, findIdx?_append_cons (mt List.mem_reverse.mp hafter), List.length_reverse]
  have hlength : (before ++ '[' :: (body ++ ']' :: after)).length - after.length =
      (before ++ '[' :: (body ++ [']'])).length := by
    simp only [List.length_append, List.length_cons, List.length_nil]
    omega
  have htext : before ++ '[' :: (body ++ ']' :: after) =
      (before ++ '[' :: (body ++ [']'])) ++ after := by simp
  have hlt : before.length < (before ++ '[' :: (body ++ [']'])).length := by simp
  simp only [cutList, hstart, hstop, Option.getD_some, hlength, if_pos hlt]
  rw [htext, List.take_left, List.drop_left]

/-- A list in brackets is not cut. -/
theorem cutList_brackets (body : List Char) :
    cutList ('[' :: (body ++ [']'])) = '[' :: (body ++ [']']) :=
  cutList_append List.not_mem_nil List.not_mem_nil body

theorem trim_brackets (body : List Char) :
    Text.trim ('[' :: (body ++ [']'])) = '[' :: (body ++ [']']) := by
  have hopen : Text.isBlank '[' = false := by decide
  have hclose : Text.isBlank ']' = false := by decide
  simp [Text.trim, Text.trimStart, Text.trimEnd, hopen, hclose]

/-! ## What is read -/

/-- A written step is taken back. -/
theorem reads_write (s : Step) : Reads reader s.write s := by
  have hname : ∀ rest, Json.Stops rest →
      Fields.add {} "name" (':' :: (Json.writeString s.name ++ rest)) =
        .ok (⟨some s.name, none, none⟩, rest) := by
    intro rest hrest
    simp [Fields.add, (reads_string s.name).fill "name" hrest, ok_bind, pure_ok]
  have hinstruction : ∀ rest, Json.Stops rest →
      Fields.add ⟨some s.name, none, none⟩ "instruction"
        (':' :: (Json.writeString s.instruction ++ rest)) =
          .ok (⟨some s.name, some s.instruction, none⟩, rest) := by
    intro rest hrest
    simp [Fields.add, instructionKeys, (reads_string s.instruction).fill "instruction" hrest,
      ok_bind, pure_ok]
  have hdescription : ∀ rest, Json.Stops rest →
      Fields.add ⟨some s.name, some s.instruction, none⟩ "description"
        (':' :: (Json.writeString s.description ++ rest)) =
          .ok (⟨some s.name, some s.instruction, some s.description⟩, rest) := by
    intro rest hrest
    simp [Fields.add, instructionKeys, (reads_string s.description).fill "description" hrest,
      ok_bind, pure_ok]
  have hfills := Fills.cons hname (.cons hinstruction (.cons hdescription (.nil _)))
  refine Reads.record fun rest => ?_
  simp only [readMembers, hfills.readMembers rest, Json.require, ok_bind, pure_ok,
    Option.getD_some]

/-- **A written plan is taken back.** -/
theorem reads_writeAll (steps : List Step) :
    Reads (Json.readList reader) (writeAll steps) steps := by
  have h : Reads (Json.readList reader) (writeAll steps) (steps.map id) :=
    Reads.list fun s _ => reads_write s
  rwa [List.map_id] at h

/-! ## Both together -/

theorem decode_writeAll (steps : List Step) :
    decode (String.ofList (writeAll steps)) = .ok (steps.map unfenced) := by
  have hunfenced : mapTexts (unmark fence) ∘ mapTexts (unmark jsonFence) = unfenced := by
    funext s
    simp only [Function.comp_apply, unfenced, mapTexts]
  have hplain : removeAll fence (removeAll jsonFence (writeAll steps)) =
      writeAll (steps.map unfenced) := by
    rw [removeAll_writeAll isMark_jsonFence, removeAll_writeAll isMark_fence, List.map_map,
      hunfenced]
  rw [decode, String.toList_ofList, hplain]
  rw [writeAll, Json.writeList, cutList_brackets, trim_brackets]
  exact (reads_writeAll (steps.map unfenced)).wholeText

/-- The longer fence starts with the shorter one. -/
theorem jsonFence_not_part {s : List Char} (h : ¬ fence <:+: s) : ¬ jsonFence <:+: s :=
  fun hpart => h ((List.prefix_append fence ['j', 's', 'o', 'n']).isInfix.trans hpart)

/-- A text without fences is left alone, and no other one is. -/
theorem unmark_unmark_eq_self_iff {text : String} :
    unmark fence (unmark jsonFence text) = text ↔ ¬ fence <:+: text.toList := by
  have hfence := isMark_fence.ne_nil
  have hjsonFence := isMark_jsonFence.ne_nil
  rw [← String.toList_inj]
  simp only [unmark, String.toList_ofList]
  constructor
  · intro h
    -- both removals only leave something out, so the first of them has left out nothing
    have hsecond := removeAll_sublist hfence (removeAll jsonFence text.toList)
    rw [h] at hsecond
    have hfirst := (removeAll_sublist hjsonFence text.toList).eq_of_length_le hsecond.length_le
    rw [hfirst] at h
    exact (removeAll_eq_self_iff hfence).mp h
  · intro h
    rw [(removeAll_eq_self_iff hjsonFence).mpr (jsonFence_not_part h),
      (removeAll_eq_self_iff hfence).mpr h]

/-- **A plan is read back without its fences**, and with everything else: each text loses the fences
that stand in it. So a plan is read back as it was exactly if none of its texts has three grave
accents in a row. -/
theorem decode_loses_only_fences (steps : List Step) :
    decode (String.ofList (writeAll steps)) = .ok (steps.map unfenced) ∧
      (decode (String.ofList (writeAll steps)) = .ok steps ↔
        ∀ s ∈ steps, ∀ text ∈ s.texts, ¬ fence <:+: text.toList) := by
  refine ⟨decode_writeAll steps, ?_⟩
  have hsame : steps.map unfenced = steps.map id ↔ ∀ s ∈ steps, s.unfenced = s :=
    List.map_inj_left
  rw [List.map_id] at hsame
  rw [decode_writeAll, Except.ok.injEq, hsame]
  simp only [unfenced, mapTexts_eq_self_iff, unmark_unmark_eq_self_iff]

/-- Three grave accents inside of a text are lost. -/
theorem decode_writeAll_accents :
    decode (String.ofList (writeAll [⟨"", "TEXT:a\x60\x60\x60b", ""⟩])) ≠
      .ok [⟨"", "TEXT:a\x60\x60\x60b", ""⟩] := by
  rw [decode_writeAll]
  exact fun h => absurd (Except.ok.inj h) (by decide)

end Step

end KeyPlan
