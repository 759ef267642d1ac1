import BenchSuite.CommandLine.Parser
import Mathlib.Data.List.TakeWhile

/-!
# Options in their long forms

The long form of an option is its name behind two dashes, with its value behind an equals sign or in
the next word.  Wherever the reader is ready for an option, it takes a long form for the option of
that name, whatever the value looks like.
-/

namespace BenchSuite.CommandLine

namespace OptionName

def form (option : OptionName) : String :=
  "--" ++ option.long

/-- The long form with a value attached to it. -/
def attached (option : OptionName) (value : String) : String :=
  option.form ++ "=" ++ value

theorem long_ne_nil (option : OptionName) : option.long.toList ≠ [] := by
  cases option <;> decide

theorem equals_not_mem_long (option : OptionName) : '=' ∉ option.long.toList := by
  cases option <;> decide

theorem toList_form (option : OptionName) :
    option.form.toList = '-' :: '-' :: option.long.toList := by
  rw [form, String.toList_append]
  rfl

theorem toList_attached (option : OptionName) (value : String) :
    (option.attached value).toList =
      '-' :: '-' :: (option.long.toList ++ '=' :: value.toList) := by
  have equals : "=".toList = ['='] := rfl
  simp [attached, toList_form, equals]

end OptionName

theorem Level.long?_long {level : Level} {option : OptionName} (known : option ∈ level.options) :
    level.long? option.long = some option := by
  revert known
  cases level <;> cases option <;> decide

namespace Progress

theorem differs_of_no_equals {name : List Char} (unequal : '=' ∉ name) :
    ∀ c ∈ name, decide (c ≠ '=') = true := by
  intro c member
  rw [decide_eq_true_eq]
  rintro rfl
  exact unequal member

theorem splitLong_of_equals {name : List Char} (value : List Char) (unequal : '=' ∉ name) :
    splitLong (name ++ '=' :: value) = (String.ofList name, some (String.ofList value)) := by
  have differs := differs_of_no_equals unequal
  simp only [splitLong, List.takeWhile_append_of_pos differs, List.dropWhile_append_of_pos differs]
  simp

theorem splitLong_of_no_equals {name : List Char} (unequal : '=' ∉ name) :
    splitLong name = (String.ofList name, none) := by
  have differs := differs_of_no_equals unequal
  simp only [splitLong, List.takeWhile_eq_self_iff.mpr differs,
    List.dropWhile_eq_nil_iff.mpr differs]

/-- The next word can be an option: nothing has ended the options, and none waits for its value. -/
structure Ready (progress : Progress) : Prop where
  options : progress.onlyOperands = false
  settled : progress.isAwaiting = false

variable {level : Level} {progress : Progress} {option : OptionName} {word : String}

theorem Ready.takesAnything (ready : progress.Ready) : progress.takesAnything = false := by
  have settled := ready.settled
  unfold isAwaiting at settled
  unfold Progress.takesAnything
  split
  · simp_all
  · rfl

theorem word_of_dashes {form : List Char} (ready : progress.Ready) (named : form ≠ [])
    (dashes : word.toList = '-' :: '-' :: form) :
    progress.word level word = progress.long level (splitLong form).1 (splitLong form).2 := by
  unfold Progress.word
  rw [if_neg (by simp [ready.options, ready.takesAnything]), dashes]
  cases form with
  | nil => exact (named rfl).elim
  | cons c rest => rfl

theorem word_form (ready : progress.Ready) (known : option ∈ level.options) :
    progress.word level option.form =
      if option.isFlag then progress.flag option else progress.await option := by
  rw [word_of_dashes ready option.long_ne_nil option.toList_form,
    splitLong_of_no_equals option.equals_not_mem_long, String.ofList_toList]
  simp only [Progress.long, Level.long?_long known]

theorem word_flag (ready : progress.Ready) (known : option ∈ level.options)
    (flag : option.isFlag = true) :
    progress.word level option.form = (do
      let settings ← progress.settle
      pure { settings := ← settings.flag option }) := by
  rw [word_form ready known, if_pos flag, Progress.flag, ready.options]

theorem word_awaiting (ready : progress.Ready) (known : option ∈ level.options)
    (valued : option.isFlag = false) :
    progress.word level option.form = (do
      let settings ← progress.settle
      pure { settings, pending := .awaiting option }) := by
  rw [word_form ready known, valued, await, ready.options]
  rfl

theorem word_attached (ready : progress.Ready) (known : option ∈ level.options)
    (valued : option.isFlag = false) (value : String) :
    progress.word level (option.attached value) = (do
      let settings ← progress.settle
      pure { settings := ← settings.set option value }) := by
  rw [word_of_dashes ready (by simp) (option.toList_attached value),
    splitLong_of_equals value.toList option.equals_not_mem_long, String.ofList_toList,
    String.ofList_toList]
  simp only [Progress.long, Level.long?_long known, valued, Bool.false_eq_true, if_false,
    Progress.attached, ready.options]

theorem isCommandWord_iff {word : String} :
    isCommandWord word = true ↔
      word ∈ [helpWord, "list", "list-groups", "list_groups", "select"] := by
  unfold isCommandWord Level.ofCommand?
  split <;> simp_all

theorem isCommandWord_of_dash {rest : List Char} (dash : word.toList = '-' :: rest) :
    isCommandWord word = false := by
  have plain : ∀ command ∈ [helpWord, "list", "list-groups", "list_groups", "select"],
      command.toList.head? ≠ some '-' := by
    decide
  rw [Bool.eq_false_iff]
  intro command
  exact plain word (isCommandWord_iff.mp command) (by rw [dash, List.head?_cons])

theorem words_cons {rest : List String} (passes : progress.meetsCommand level word = false) :
    Progress.words level progress (word :: rest) =
      (progress.word level word >>= fun progress => Progress.words level progress rest) := by
  rw [words, passes]
  rfl

theorem meetsCommand_of_dash {rest : List Char} (dash : word.toList = '-' :: rest) :
    progress.meetsCommand level word = false := by
  simp [meetsCommand, isCommandWord_of_dash dash]

theorem meetsCommand_of_level (inner : level ≠ .program) :
    progress.meetsCommand level word = false := by
  simp [meetsCommand, inner]

end Progress

end BenchSuite.CommandLine
