import CatalogConsole.LogFlags

/-! # The flags in front of a command line

`LogFlags.split` cuts a command line at the first word that is no flag.  So the flags in front are the
longest run of flags that the command line starts with (`LogFlags.Lead`), and there is only one way to
cut it like that (`split_eq_iff`).  It is also what comes of taking one flag off after the other and
keeping note of what has been asked for (`taken`): the note grows by what each flag asks for, and what
is left has the same flags in front as before, less that one (`taken_eq`).

What flags ask for does not depend on their order or their number, because all that matters is whether
there is a verbose one and whether there is a quiet one.  More flags in front ask for more
(`split_append_of_flags`), and flags behind another word are no flags in front.
-/
namespace CatalogConsole

attribute [ext] LogFlags

namespace LogFlags

/-! ## What several flags ask for -/

/-- What is asked for by one or by the other. -/
def or (asked more : LogFlags) : LogFlags :=
  ⟨asked.verbose || more.verbose, asked.quiet || more.quiet⟩

theorem or_assoc (first second third : LogFlags) :
    (first.or second).or third = first.or (second.or third) := by
  simp only [or, Bool.or_assoc]

@[simp] theorem empty_or (asked : LogFlags) : or {} asked = asked := by
  simp [or]

@[simp] theorem or_empty (asked : LogFlags) : asked.or {} = asked := by
  simp [or]

/-- Words ask for what the first of them and the others ask for. -/
theorem ofWords_append (front rest : List String) :
    ofWords (front ++ rest) = (ofWords front).or (ofWords rest) := by
  simp only [ofWords, or, List.any_append]

/-- **What words ask for depends on the kinds of flags among them only.** -/
theorem ofWords_congr {words words' : List String}
    (verbose : "-v" ∈ words ∨ "--verbose" ∈ words ↔ "-v" ∈ words' ∨ "--verbose" ∈ words')
    (quiet : "-q" ∈ words ∨ "--quiet" ∈ words ↔ "-q" ∈ words' ∨ "--quiet" ∈ words') :
    ofWords words = ofWords words' := by
  ext
  · rw [Bool.eq_iff_iff, verbose_ofWords_iff, verbose_ofWords_iff, verbose]
  · rw [Bool.eq_iff_iff, quiet_ofWords_iff, quiet_ofWords_iff, quiet]

/-- A list of flags is nothing but flags in front. -/
theorem split_of_flags {words : List String} (areFlags : ∀ word ∈ words, isFlag word = true) :
    split words = (ofWords words, []) := by
  have divided : split (words ++ []) = (ofWords words, []) :=
    split_append areFlags fun _ h => nomatch h
  rwa [List.append_nil] at divided

/-! ## The longest run -/

/-- **The flags in front of a command line, and what is left of it**: the command line starts with
them, and no longer run of flags is in front. -/
structure Lead (argv flags rest : List String) : Prop where
  divided : argv = flags ++ rest
  areFlags : ∀ word ∈ flags, isFlag word = true
  longest : ∀ front, front <+: argv → (∀ word ∈ front, isFlag word = true) → front <+: flags

/-- A command line can be cut like that. -/
theorem lead_split (argv : List String) :
    Lead argv (argv.takeWhile isFlag) (split argv).2 where
  divided := List.takeWhile_append_dropWhile.symm
  areFlags := List.all_eq_true.mp List.all_takeWhile
  longest := by
    rintro front ⟨rest, rfl⟩ areFlags
    rw [List.takeWhile_append_of_pos areFlags]
    exact List.prefix_append _ _

/-- There is only one way to do so. -/
theorem Lead.unique {argv flags rest flags' rest' : List String} (h : Lead argv flags rest)
    (h' : Lead argv flags' rest') : flags = flags' ∧ rest = rest' := by
  have shorter : flags <+: flags' := h'.longest flags ⟨rest, h.divided.symm⟩ h.areFlags
  have longer : flags' <+: flags := h.longest flags' ⟨rest', h'.divided.symm⟩ h'.areFlags
  obtain rfl : flags = flags' := shorter.eq_of_length_le longer.length_le
  exact ⟨rfl, List.append_cancel_left (h.divided.symm.trans h'.divided)⟩

/-- **A command line is split behind the flags in front.** -/
theorem split_eq_iff {argv rest : List String} {asked : LogFlags} :
    split argv = (asked, rest) ↔ ∃ flags, Lead argv flags rest ∧ asked = ofWords flags := by
  constructor
  · intro divided
    obtain ⟨rfl, rfl⟩ := Prod.mk.inj divided
    exact ⟨_, lead_split argv, rfl⟩
  · rintro ⟨flags, lead, rfl⟩
    obtain ⟨rfl, rfl⟩ := lead.unique (lead_split argv)
    rfl

/-- **More flags in front ask for more**, and what is left is the same. -/
theorem split_append_of_flags {front : List String}
    (areFlags : ∀ word ∈ front, isFlag word = true) (argv : List String) :
    split (front ++ argv) = ((ofWords front).or (split argv).1, (split argv).2) := by
  rw [split, List.takeWhile_append_of_pos areFlags, List.dropWhile_append_of_pos areFlags,
    ofWords_append]
  rfl

/-- A word behind flags that is none stays, with all that is behind it. -/
theorem split_append_cons {flags : List String} {word : String}
    (areFlags : ∀ word ∈ flags, isFlag word = true) (other : isFlag word = false)
    (rest : List String) : split (flags ++ word :: rest) = (ofWords flags, word :: rest) :=
  split_append areFlags fun _ h => Option.some.inj h ▸ other

/-- What is left has no flags in front. -/
theorem split_rest (argv : List String) : split (split argv).2 = ({}, (split argv).2) := by
  cases left : (split argv).2 with
  | nil => rfl
  | cons word rest =>
    have other : isFlag word = false := by
      have stop := List.head?_dropWhile_not isFlag argv
      rw [split_snd] at left
      rwa [left] at stop
    exact split_append_cons (List.forall_mem_nil _) other rest

/-! ## One flag after the other -/

/-- Takes the flags off a command line one by one, and keeps note of what has been asked for. -/
def taken (asked : LogFlags) : List String → LogFlags × List String
  | [] => (asked, [])
  | word :: rest =>
    if word ∈ verboseWords then taken { asked with verbose := true } rest
    else if word ∈ quietWords then taken { asked with quiet := true } rest
    else (asked, word :: rest)

/-- Each kind of flag asks for what it is named for. -/
theorem ofWords_verbose {word : String} (verbose : word ∈ verboseWords) :
    ofWords [word] = ⟨true, false⟩ := by
  revert word
  decide

theorem ofWords_quiet {word : String} (quiet : word ∈ quietWords) :
    ofWords [word] = ⟨false, true⟩ := by
  revert word
  decide

/-- The words of the two kinds are the flags. -/
theorem isFlag_iff_kind {word : String} :
    isFlag word = true ↔ word ∈ verboseWords ∨ word ∈ quietWords := by
  simp [isFlag]

/-- **Flags taken off one by one** are those in front, and what has been asked for before is not
forgotten. -/
theorem taken_eq (asked : LogFlags) (argv : List String) :
    taken asked argv = (asked.or (split argv).1, (split argv).2) := by
  induction argv generalizing asked with
  | nil => exact Prod.ext (or_empty asked).symm rfl
  | cons word rest ih =>
    -- a flag that is taken off asks for the same before and after
    have step (flag : isFlag word = true) : split (word :: rest) = _ :=
      split_append_of_flags (List.forall_mem_singleton.mpr flag) rest
    rw [taken]
    by_cases verbose : word ∈ verboseWords
    · rw [if_pos verbose, ih, step (isFlag_iff_kind.mpr (.inl verbose)), ofWords_verbose verbose,
        ← or_assoc]
      simp [or]
    · by_cases quiet : word ∈ quietWords
      · rw [if_neg verbose, if_pos quiet, ih, step (isFlag_iff_kind.mpr (.inr quiet)),
          ofWords_quiet quiet, ← or_assoc]
        simp [or]
      · have other : isFlag word = false := by
          rw [← Bool.not_eq_true, isFlag_iff_kind]
          exact not_or_intro verbose quiet
        have stays : split (word :: rest) = ({}, word :: rest) :=
          split_append_cons (List.forall_mem_nil _) other rest
        rw [if_neg verbose, if_neg quiet, stays, or_empty]

end LogFlags

/-- **A command line is split behind the flags in front of it.**  There are four flags, and the longest
run of them at the start of a command line is taken off.  Which kinds of flags it has is what is asked
for.  Everything from the first other word on is left as it is, and splitting what is left takes off
nothing more.

More flags in front add what they ask for and leave the rest the same.  Neither their order nor their
number matters, but only which kinds there are. -/
theorem leading_flags_split_off :
    (∀ word, LogFlags.isFlag word = true ↔ word ∈ ["-v", "--verbose", "-q", "--quiet"]) ∧
    ∀ argv : List String,
    let asked := (LogFlags.split argv).1
    let args := (LogFlags.split argv).2
    (∃ flags, LogFlags.Lead argv flags args ∧
      (∀ flags' rest, LogFlags.Lead argv flags' rest → flags' = flags ∧ rest = args) ∧
      (asked.verbose = true ↔ "-v" ∈ flags ∨ "--verbose" ∈ flags) ∧
      (asked.quiet = true ↔ "-q" ∈ flags ∨ "--quiet" ∈ flags)) ∧
    LogFlags.taken {} argv = (asked, args) ∧
    (∀ flags word rest, (∀ f ∈ flags, LogFlags.isFlag f = true) → LogFlags.isFlag word = false →
      argv = flags ++ word :: rest → args = word :: rest) ∧
    LogFlags.split args = (⟨false, false⟩, args) ∧
    (∀ front, (∀ f ∈ front, LogFlags.isFlag f = true) →
      (LogFlags.split (front ++ argv)).2 = args ∧
      (LogFlags.split (front ++ argv)).1.verbose =
        ((LogFlags.split front).1.verbose || asked.verbose) ∧
      (LogFlags.split (front ++ argv)).1.quiet =
        ((LogFlags.split front).1.quiet || asked.quiet)) ∧
    ∀ front front', (∀ f ∈ front, LogFlags.isFlag f = true) →
      (∀ f ∈ front', LogFlags.isFlag f = true) →
      ("-v" ∈ front ∨ "--verbose" ∈ front ↔ "-v" ∈ front' ∨ "--verbose" ∈ front') →
      ("-q" ∈ front ∨ "--quiet" ∈ front ↔ "-q" ∈ front' ∨ "--quiet" ∈ front') →
      LogFlags.split (front ++ argv) = LogFlags.split (front' ++ argv) := by
  refine ⟨fun word => LogFlags.isFlag_iff, fun argv => ?_⟩
  intro asked args
  refine ⟨?_, ?_, ?_, LogFlags.split_rest argv, ?_, ?_⟩
  · obtain ⟨flags, lead, asks⟩ := LogFlags.split_eq_iff.mp (show LogFlags.split argv = (asked, args)
      from rfl)
    refine ⟨flags, lead, fun _ _ lead' => lead'.unique lead, ?_, ?_⟩
    · rw [asks, LogFlags.verbose_ofWords_iff]
    · rw [asks, LogFlags.quiet_ofWords_iff]
  · rw [LogFlags.taken_eq, LogFlags.empty_or]
  · rintro flags word rest areFlags other rfl
    exact congrArg Prod.snd (LogFlags.split_append_cons areFlags other rest)
  · intro front areFlags
    rw [LogFlags.split_append_of_flags areFlags, LogFlags.split_of_flags areFlags]
    exact ⟨rfl, rfl, rfl⟩
  · intro front front' areFlags areFlags' verbose quiet
    rw [LogFlags.split_append_of_flags areFlags, LogFlags.split_append_of_flags areFlags',
      LogFlags.ofWords_congr verbose quiet]

/-- A flag behind the command stays there, and two verbose flags in front do as much as one. -/
theorem flag_behind_command_stays :
    let argv := ["-q", "list_product_sets", "-v"]
    LogFlags.split argv = (⟨false, true⟩, ["list_product_sets", "-v"]) ∧
      LogFlags.split (["-v", "--verbose"] ++ argv) =
        (⟨true, true⟩, ["list_product_sets", "-v"]) ∧
      LogFlags.split (["-v", "--verbose"] ++ argv) = LogFlags.split (["-v"] ++ argv) := by
  intro argv
  obtain ⟨-, -, behind, -, more, alike⟩ := leading_flags_split_off.2 argv
  have args : (LogFlags.split argv).2 = ["list_product_sets", "-v"] :=
    behind ["-q"] "list_product_sets" ["-v"] (by decide) (by decide) rfl
  have twice : ∀ f ∈ ["-v", "--verbose"], LogFlags.isFlag f = true := by decide
  have once : ∀ f ∈ ["-v"], LogFlags.isFlag f = true := by decide
  obtain ⟨left, verbose, quiet⟩ := more ["-v", "--verbose"] twice
  refine ⟨Prod.ext rfl args, Prod.ext (LogFlags.ext verbose quiet) (left.trans args), ?_⟩
  exact alike _ _ twice once (by decide) (by decide)

end CatalogConsole
