import ChanceDeck.Proofs.Text.Utf8
import ChanceDeck.Run.Arguments
import Mathlib.Data.List.Basic

/-!
# Arguments that ask for an inspection

An option with a value is read back whether the value stands in the argument after it
(`readOptions_next`) or in the same argument after an equals sign (`readOptions_same`). The first way
is open to values that do not look like options, the second to all. So a path can always be handed to
an inspection (`Inspection.ofArguments?_arguments`), whatever its bytes are.
-/

set_option autoImplicit false
set_option relaxedAutoImplicit false

namespace ChanceDeck

namespace Arguments

variable {options : Options} {name : Text} {value argument : RawText} {rest : List RawText}

theorem option?_encode (body : Bytes) : option? ⟨hyphen :: hyphen :: body⟩ = some body :=
  rfl

theorem written_of_not_mem {body : Bytes} (h : equals ∉ body) : written body = (body, none) := by
  have hall : ∀ b ∈ body, decide (b ≠ equals) = true :=
    fun b hb ↦ decide_eq_true fun heq ↦ h (heq ▸ hb)
  have hnothing : body.dropWhile (· ≠ equals) = [] := by
    rw [← List.append_nil body, List.dropWhile_append_of_pos hall, List.dropWhile_nil]
  rw [written, hnothing]

theorem written_append {body : Bytes} (h : equals ∉ body) (value : Bytes) :
    written (body ++ equals :: value) = (body, some ⟨value⟩) := by
  have hall : ∀ b ∈ body, decide (b ≠ equals) = true :=
    fun b hb ↦ decide_eq_true fun heq ↦ h (heq ▸ hb)
  rw [written, List.dropWhile_append_of_pos hall, List.dropWhile_cons_of_neg (by decide),
    List.takeWhile_append_of_pos hall, List.takeWhile_cons_of_neg (by decide), List.append_nil]

theorem readOptions_of_isValue (hoption : option? argument = none)
    (hvalue : isValue argument = true) :
    readOptions options (argument :: rest) = some ([], argument :: rest) := by
  rw [readOptions.eq_def]
  simp only [hoption, hvalue, if_true]

section Option

variable (hname : Utf8.encode name ≠ []) (hequals : equals ∉ Utf8.encode name)
  (hfind : options.find? (·.1 = name) = some (name, .value))
include hname hequals hfind

/-- An option with its value in the next argument. -/
theorem readOptions_next (hvalue : isValue value = true) :
    readOptions options (⟨hyphen :: hyphen :: Utf8.encode name⟩ :: value :: rest) =
      (readOptions options rest).map fun read ↦ ((name, value) :: read.1, read.2) := by
  obtain ⟨b, body, hbody⟩ := List.exists_cons_of_ne_nil hname
  have hwritten := written_of_not_mem hequals
  have hdecode := Utf8.decode?_encode name
  rw [hbody] at hwritten hdecode
  rw [readOptions.eq_def, hbody]
  simp only [option?_encode, hwritten, hdecode, Option.bind_some, hfind, hvalue, if_true]
  cases readOptions options rest <;> rfl

/-- An option with its value in the same argument. -/
theorem readOptions_same :
    readOptions options
        (⟨hyphen :: hyphen :: (Utf8.encode name ++ equals :: value.bytes)⟩ :: rest) =
      (readOptions options rest).map fun read ↦ ((name, value) :: read.1, read.2) := by
  obtain ⟨b, body, hbody⟩ := List.exists_cons_of_ne_nil hname
  have hwritten := written_append hequals value.bytes
  have hdecode := Utf8.decode?_encode name
  rw [hbody] at hwritten hdecode
  rw [readOptions.eq_def, hbody]
  simp only [option?_encode, List.cons_append] at hwritten ⊢
  simp only [hwritten, hdecode, Option.bind_some, hfind]
  cases readOptions options rest <;> rfl

end Option

end Arguments

namespace Inspection

open Arguments

/-- The bytes of the option that an inspection takes. -/
def inputOption : Bytes :=
  hyphen :: hyphen :: Utf8.encode "input".toList

/-- Arguments that ask for the inspection of a file. A path that looks like an option stands in one
argument with the option that it belongs to. -/
def arguments (path : RawText) : List RawText :=
  if isValue path then [.ofText "decode".toList, ⟨inputOption⟩, path]
  else [.ofText "decode".toList, ⟨inputOption ++ equals :: path.bytes⟩]

theorem exists_arguments_eq_cons (path : RawText) :
    ∃ rest, arguments path = .ofText "decode".toList :: rest ∧
      readOptions (programOptions ++ [("input".toList, .value)]) rest =
        some ([("input".toList, path)], []) := by
  have hname : Utf8.encode "input".toList ≠ [] := by decide
  have hequals : equals ∉ Utf8.encode "input".toList := by decide
  have hfind : (programOptions ++ [("input".toList, Kind.value)]).find? (·.1 = "input".toList) =
      some ("input".toList, .value) := by decide
  rw [arguments]
  split_ifs with hvalue
  · exact ⟨_, rfl, readOptions_next hname hequals hfind hvalue⟩
  · exact ⟨_, rfl, readOptions_same hname hequals hfind⟩

theorem command?_decode {path : RawText} (h : path.bytes ≠ []) :
    command? "decode".toList [("input".toList, path)] = some (.decode (some path)) := by
  show ((path? path).map some).map Command.decode = _
  rw [path?, if_neg h]
  rfl

/-- The arguments are understood as they are meant. -/
theorem ofArguments?_arguments {path : RawText} (h : path.bytes ≠ []) :
    Invocation.ofArguments? (arguments path) = some ⟨[], false, .decode (some path)⟩ := by
  obtain ⟨rest, hcons, hrest⟩ := exists_arguments_eq_cons path
  have hbefore : readOptions programOptions (.ofText "decode".toList :: rest) =
      some ([], .ofText "decode".toList :: rest) :=
    readOptions_of_isValue (by decide) (by decide)
  have hoptions : (commandOptions.find? (·.1 = "decode".toList)).map Prod.snd =
      some [("input".toList, .value)] := rfl
  have hprogram : program? [("input".toList, path)] = some ([], false) := rfl
  have hnothing : program? [] = some ([], false) := rfl
  simp only [Invocation.ofArguments?, hcons, hbefore, Option.bind_eq_bind, Option.bind_some,
    List.head?_cons, RawText.text?_ofText, hoptions, List.drop_succ_cons, List.drop_zero, hrest,
    hprogram, hnothing, command?_decode h]
  rfl

end Inspection

end ChanceDeck
