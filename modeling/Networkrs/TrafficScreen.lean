import Networkrs.Json
import Networkrs.Lib.Terminal
import Networkrs.Probe
import Networkrs.Traffic
/-!
# TrafficScreen — the traffic command, on a terminal and as JSON

`print_traffic` of `main.rs` prints one sample after another, and on a terminal goes up by the lines of the last sample
to print the next one in its place; `traffic_json` prints each sample on a line.  Both show the same samples and end
alike, and what is left on the terminal is the last sample, behind the rows of earlier ones that did not fit
(`traffic_screen_exact`).  A line has one row here: the code goes up by lines, also where a narrow terminal wraps them.
-/
namespace Networkrs

open Machine Terminal
open Collect (Outcome)

/-- What the calls of `networkrs traffic` return: the samples that are taken, one after the other; whether the output
is a terminal; and how byte rates and seconds are printed. -/
structure TrafficCalls where
  samples : Option Text → UInt64 → List (Except IoError TrafficSample)
  isTerminal : Bool
  humanBytes : UInt64 → Text
  seconds : Nat → Text

/-- What is printed: a line, or `\x1b[{lines}A\r\x1b[J`, which goes up by some lines and erases what is below. -/
inductive Output where
  | line (text : Text)
  | redraw (lines : Nat)
  deriving DecidableEq, Repr

variable (calls : TrafficCalls)

/-! ## Text -/

def directionRateLine (label : Text) (rate : DirectionRate) : Text :=
  "    " ++ label ++ ": " ++ calls.humanBytes rate.bytesPerSecond ++ "/s, " ++ decimal rate.packetsPerSecond.toNat ++
    " packets/s, " ++ decimal rate.errors.toNat ++ " errors, " ++ decimal rate.dropped.toNat ++ " dropped"

/-- The lines of `print_traffic_sample`. -/
def trafficSampleLines (sample : TrafficSample) : List Text :=
  ("Traffic (" ++ calls.seconds sample.elapsed ++ "s sample)") ::
    sample.interfaces.flatMap (fun interface =>
      ["  " ++ interface.interface, directionRateLine calls "RX" interface.received,
        directionRateLine calls "TX" interface.transmitted])

def trafficSampleLineCount (interfaceCount : Nat) : Nat := 1 + interfaceCount * 3

/-- The loop of `print_traffic`, over the samples that are taken. -/
def printSamples (refresh watch : Bool) : Nat → List (Except IoError TrafficSample) → List Output × IoResult Unit
  | _, [] => ([], .waiting)
  | _, .error e :: _ => ([], .err e)
  | renderedLines, .ok sample :: samples =>
    let outputs := (if refresh ∧ renderedLines ≠ 0 then [Output.redraw renderedLines] else []) ++
      (trafficSampleLines calls sample).map Output.line
    if watch then
      let (rest, result) := printSamples refresh watch (trafficSampleLineCount sample.interfaces.length) samples
      (outputs ++ rest, result)
    else (outputs, .ok ())

def printTraffic (arguments : List Text) : List Output × IoResult Unit :=
  match parseTrafficArguments arguments with
  | .error e => ([], .err e)
  | .ok parsed =>
    printSamples calls (parsed.watch && calls.isTerminal) parsed.watch 0
      (calls.samples parsed.selection parsed.intervalMs)

/-! ## JSON -/

def jsonDirectionRate (rate : DirectionRate) : Json.Value :=
  .object
    [("bytesPerSecond", Json.ofNat rate.bytesPerSecond.toNat),
      ("packetsPerSecond", Json.ofNat rate.packetsPerSecond.toNat), ("errors", Json.ofNat rate.errors.toNat),
      ("dropped", Json.ofNat rate.dropped.toNat)]

def jsonTrafficSample (sample : TrafficSample) : Json.Value :=
  .object
    [("elapsedMilliseconds", Json.ofNat (sample.elapsed / 10 ^ 6)),
      ("interfaces", .array (sample.interfaces.map (fun interface =>
        .object
          [("interface", .string interface.interface), ("received", jsonDirectionRate interface.received),
            ("transmitted", jsonDirectionRate interface.transmitted)])))]

/-- The loop of `traffic_json`. -/
def jsonSamples (watch : Bool) : List (Except IoError TrafficSample) → List Text × IoResult Unit
  | [] => ([], .waiting)
  | .error e :: _ => ([], .err e)
  | .ok sample :: samples =>
    if watch then
      let (rest, result) := jsonSamples watch samples
      ((jsonTrafficSample sample).render :: rest, result)
    else ([(jsonTrafficSample sample).render], .ok ())

def trafficJson (arguments : List Text) : List Text × IoResult Unit :=
  match parseTrafficArguments arguments with
  | .error e => ([], .err e)
  | .ok parsed => jsonSamples parsed.watch (calls.samples parsed.selection parsed.intervalMs)

/-! ## The samples that are shown -/

/-- The samples before the first failure: all of them in watch mode, else the first. -/
def shownSamples (watch : Bool) (samples : List (Except IoError TrafficSample)) : List TrafficSample :=
  let taken := (samples.takeWhile Except.isOk).filterMap Except.toOption
  if watch then taken else taken.take 1

/-- The rows of a text on a terminal that is wide enough for it. -/
def textRows (lines : List Text) : List Text := lines.flatMap (splitAll '\n')

/-- The effect of outputs on a terminal. -/
def applyOutputs : List Output → Screen Text → Screen Text
  | [], screen => screen
  | .line text :: outputs, screen => applyOutputs outputs (screen.write (splitAll '\n' text))
  | .redraw lines :: outputs, screen => applyOutputs outputs (screen.eraseUp lines)

variable {calls}

theorem applyOutputs_append : ∀ (outputs outputs' : List Output) (screen : Screen Text),
    applyOutputs (outputs ++ outputs') screen = applyOutputs outputs' (applyOutputs outputs screen)
  | [], _, _ => rfl
  | .line text :: outputs, outputs', screen => applyOutputs_append outputs outputs' (screen.write (splitAll '\n' text))
  | .redraw lines :: outputs, outputs', screen => applyOutputs_append outputs outputs' (screen.eraseUp lines)

theorem applyOutputs_lines : ∀ (lines : List Text) (screen : Screen Text),
    applyOutputs (lines.map Output.line) screen = screen.write (textRows lines)
  | [], screen => screen.write_nil.symm
  | line :: lines, screen => by
    rw [List.map_cons, applyOutputs, applyOutputs_lines lines, Screen.write_write]
    rfl

theorem length_textRows_ge : ∀ (lines : List Text), lines.length ≤ (textRows lines).length
  | [] => Nat.le_refl 0
  | line :: lines => by
    have hrow := List.length_pos_of_ne_nil (splitAll_ne_nil '\n' line)
    have hrest := length_textRows_ge lines
    simp only [textRows, List.flatMap_cons, List.length_append, List.length_cons] at hrest ⊢
    omega

/-- **The count is that of the lines.** -/
theorem length_trafficSampleLines (sample : TrafficSample) :
    (trafficSampleLines calls sample).length = trafficSampleLineCount sample.interfaces.length := by
  simp [trafficSampleLines, trafficSampleLineCount, List.length_flatMap, Nat.add_comm]

variable (calls) in
/-- The rows of a sample. -/
def sampleRows (sample : TrafficSample) : List Text := textRows (trafficSampleLines calls sample)

/-- The lines that are gone up by. -/
def sampleCount (sample : TrafficSample) : Nat := trafficSampleLineCount sample.interfaces.length

theorem sampleCount_bounds (sample : TrafficSample) :
    0 < sampleCount sample ∧ sampleCount sample ≤ (sampleRows calls sample).length := by
  refine ⟨by unfold sampleCount trafficSampleLineCount; omega, ?_⟩
  rw [sampleCount, ← @length_trafficSampleLines calls]
  exact length_textRows_ge _

theorem shownSamples_ok (watch : Bool) (sample : TrafficSample) (samples : List (Except IoError TrafficSample)) :
    shownSamples watch (.ok sample :: samples) = sample :: if watch then shownSamples watch samples else [] := by
  cases watch <;> simp [shownSamples, List.takeWhile_cons, Except.isOk, Except.toBool, Except.toOption]

theorem shownSamples_error (watch : Bool) (e : IoError) (samples : List (Except IoError TrafficSample)) :
    shownSamples watch (.error e :: samples) = [] := by
  cases watch <;> simp [shownSamples, Except.isOk, Except.toBool]

/-- **In place**, the samples are redrawn. -/
theorem apply_printSamples_refresh : ∀ (samples : List (Except IoError TrafficSample)) (renderedLines : Nat)
    (screen : Screen Text), applyOutputs (printSamples calls true true renderedLines samples).1 screen =
      redraw sampleCount (sampleRows calls) renderedLines (shownSamples true samples) screen
  | [], _, _ => rfl
  | .error e :: samples, renderedLines, screen => by
    rw [shownSamples_error]
    rfl
  | .ok sample :: samples, renderedLines, screen => by
    have ih := apply_printSamples_refresh samples (sampleCount sample)
    have hredraw : applyOutputs (if true ∧ renderedLines ≠ 0 then [Output.redraw renderedLines] else []) screen =
        if renderedLines ≠ 0 then screen.eraseUp renderedLines else screen := by
      by_cases hzero : renderedLines = 0
      · simp [hzero, applyOutputs]
      · simp [hzero, applyOutputs]
    rw [shownSamples_ok, if_pos rfl, printSamples, if_pos rfl, redraw, ← ih]
    dsimp only
    rw [applyOutputs_append, applyOutputs_append, hredraw, applyOutputs_lines]
    rfl

/-- **One below the other**, the samples are written. -/
theorem apply_printSamples_plain (watch : Bool) : ∀ (samples : List (Except IoError TrafficSample))
    (renderedLines : Nat) (screen : Screen Text),
    applyOutputs (printSamples calls false watch renderedLines samples).1 screen =
      screen.write ((shownSamples watch samples).flatMap (sampleRows calls))
  | [], _, screen => by
    cases watch <;> exact screen.write_nil.symm
  | .error e :: samples, renderedLines, screen => by
    rw [shownSamples_error]
    exact screen.write_nil.symm
  | .ok sample :: samples, renderedLines, screen => by
    have ih := apply_printSamples_plain watch samples (sampleCount sample)
    have hlines := @applyOutputs_lines (trafficSampleLines calls sample) screen
    rw [shownSamples_ok, printSamples]
    cases watch with
    | true =>
      dsimp only
      rw [if_pos rfl, if_pos rfl, if_neg (fun h => absurd h.1 (by decide)), List.nil_append, applyOutputs_append,
        hlines, List.flatMap_cons, ← Screen.write_write]
      exact ih _
    | false =>
      dsimp only
      rw [if_neg Bool.false_ne_true, if_neg Bool.false_ne_true, if_neg (fun h => absurd h.1 (by decide)),
        List.nil_append, hlines, List.flatMap_cons, List.flatMap_nil, List.append_nil]
      rfl

/-- The loops end alike. -/
theorem printSamples_snd (refresh watch : Bool) : ∀ (samples : List (Except IoError TrafficSample))
    (renderedLines : Nat), (printSamples calls refresh watch renderedLines samples).2 = (jsonSamples watch samples).2
  | [], _ => rfl
  | .error e :: _, _ => rfl
  | .ok sample :: samples, renderedLines => by
    rw [printSamples, jsonSamples]
    cases watch with
    | true => exact printSamples_snd refresh true samples _
    | false => rfl

theorem jsonSamples_fst (watch : Bool) : ∀ (samples : List (Except IoError TrafficSample)),
    (jsonSamples watch samples).1 = (shownSamples watch samples).map (fun sample => (jsonTrafficSample sample).render)
  | [] => by cases watch <;> rfl
  | .error e :: samples => by
    rw [shownSamples_error]
    rfl
  | .ok sample :: samples => by
    have ih := jsonSamples_fst watch samples
    rw [shownSamples_ok, jsonSamples]
    cases watch with
    | true =>
      rw [if_pos rfl, if_pos rfl, List.map_cons, ← ih]
    | false => rfl

/-- A sample whose lines have no newline, and fit above the cursor, leaves nothing behind. -/
theorem take_leftover_of_fits {sample : TrafficSample} {height : Nat}
    (hlines : ∀ line ∈ trafficSampleLines calls sample, '\n' ∉ line) (hfits : sampleCount sample < height) :
    (sampleRows calls sample).take (leftover height (sampleCount sample) (sampleRows calls sample).length) = [] := by
  have hrows : (sampleRows calls sample).length = sampleCount sample := by
    have hone : ∀ line ∈ trafficSampleLines calls sample, (splitAll '\n' line).length = 1 := by
      intro line hline
      have hsplit :=
        @splitAll_join '\n' [line] (List.cons_ne_nil _ _) (List.forall_mem_singleton.2 (hlines line hline))
      rw [show join ['\n'] [line] = line by simp [join]] at hsplit
      rw [hsplit]
      rfl
    rw [sampleCount, ← @length_trafficSampleLines calls, sampleRows, textRows, List.length_flatMap,
      List.map_congr_left hone]
    simp
  have hnone : leftover height (sampleCount sample) (sampleRows calls sample).length = 0 := by
    unfold leftover
    omega
  rw [hnone, List.take_zero]

/-- **The traffic command.**  Text and JSON end alike, and show the samples before the first failure (the first one, if
not in watch mode).  JSON prints them line by line, as does text on anything but a terminal in watch mode.  There the
last sample stays, below the rows of earlier samples that had scrolled away, or that a newline had made more than the
lines gone up by; of a sample without newlines that fits above the cursor nothing stays. -/
theorem traffic_screen_exact (calls : TrafficCalls) (arguments : List Text) (screen : Screen Text) :
    (printTraffic calls arguments).2 = (trafficJson calls arguments).2 ∧
      ∀ parsed, parseTrafficArguments arguments = .ok parsed →
        let shown := shownSamples parsed.watch (calls.samples parsed.selection parsed.intervalMs)
        let after := applyOutputs (printTraffic calls arguments).1 screen
        (trafficJson calls arguments).1 = shown.map (fun sample => (jsonTrafficSample sample).render) ∧
        ((parsed.watch && calls.isTerminal) = false →
          after.rows = screen.rows ++ shown.flatMap (sampleRows calls)) ∧
        ((parsed.watch && calls.isTerminal) = true → ∀ before last, shown = before ++ [last] →
          after.rows = screen.rows ++
            (before.flatMap (fun sample => (sampleRows calls sample).take
              (leftover screen.height (sampleCount sample) (sampleRows calls sample).length)) ++
              sampleRows calls last) ∧
          ((∀ sample ∈ before, (∀ line ∈ trafficSampleLines calls sample, '\n' ∉ line) ∧
              sampleCount sample < screen.height) →
            after.rows = screen.rows ++ sampleRows calls last)) := by
  constructor
  · rw [printTraffic, trafficJson]
    cases parseTrafficArguments arguments with
    | error e => rfl
    | ok parsed => exact printSamples_snd _ _ _ 0
  · intro parsed hparsed
    have hjson : trafficJson calls arguments =
        jsonSamples parsed.watch (calls.samples parsed.selection parsed.intervalMs) := by
      rw [trafficJson, hparsed]
    have htext : printTraffic calls arguments =
        printSamples calls (parsed.watch && calls.isTerminal) parsed.watch 0
          (calls.samples parsed.selection parsed.intervalMs) := by
      rw [printTraffic, hparsed]
    dsimp only
    rw [hjson, htext]
    refine ⟨jsonSamples_fst _ _, ?_, ?_⟩
    · intro hplain
      rw [hplain, apply_printSamples_plain, Screen.rows_write]
    · intro hrefresh before last hshown
      have hwatch : parsed.watch = true := (Bool.and_eq_true_iff.1 hrefresh).1
      have hrows : (applyOutputs (printSamples calls (parsed.watch && calls.isTerminal) parsed.watch 0
          (calls.samples parsed.selection parsed.intervalMs)).1 screen).rows = screen.rows ++
            (before.flatMap (fun sample => (sampleRows calls sample).take
              (leftover screen.height (sampleCount sample) (sampleRows calls sample).length)) ++
              sampleRows calls last) := by
        rw [hwatch] at hshown
        rw [hrefresh, hwatch, apply_printSamples_refresh, hshown, rows_redraw sampleCount_bounds]
      refine ⟨hrows, fun hfits => ?_⟩
      have hnone : before.flatMap (fun sample => (sampleRows calls sample).take
          (leftover screen.height (sampleCount sample) (sampleRows calls sample).length)) = [] := by
        rw [List.flatMap_eq_nil_iff]
        exact fun sample hsample => take_leftover_of_fits (hfits sample hsample).1 (hfits sample hsample).2
      rw [hrows, hnone, List.nil_append]

/-- A rate of nothing, and the samples of an interface, then of two. -/
def idleRate (name : Text) : InterfaceRate := ⟨name, ⟨0, 0, 0, 0⟩, ⟨0, 0, 0, 0⟩⟩

def idleTraffic : TrafficCalls where
  samples _ _ :=
    [.ok ⟨10 ^ 9, [idleRate "lo"]⟩, .ok ⟨10 ^ 9, [idleRate "lo", idleRate "eth0"]⟩, .error (.os 5)]
  isTerminal := true
  humanBytes _ := "0 B"
  seconds _ := "1.0"

theorem traffic_screen_exact_watch :
    (applyOutputs (printTraffic idleTraffic ["--watch"]).1 (.empty 24 (by decide))).rows =
      sampleRows idleTraffic ⟨10 ^ 9, [idleRate "lo", idleRate "eth0"]⟩ := by
  obtain ⟨-, hparsed⟩ := traffic_screen_exact idleTraffic ["--watch"] (.empty 24 (by decide))
  obtain ⟨-, -, hrefresh⟩ := hparsed ⟨none, 1000, true⟩ (by decide)
  exact (hrefresh rfl [⟨10 ^ 9, [idleRate "lo"]⟩] ⟨10 ^ 9, [idleRate "lo", idleRate "eth0"]⟩ rfl).2 (by decide)

end Networkrs
