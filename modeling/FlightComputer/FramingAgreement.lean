import FlightComputer.Firmware.NewlineFramer
import FlightComputer.BoardTester.Framing

/-!
# The two framers agree

The firmware and the tester assemble lines with different state: a bounded
buffer and a counter there, a growable buffer and a queue of results here. Both
refine the line protocol, so they deliver the same lines from the same stream,
however it is cut into chunks and whenever the tester takes its results.
-/

set_option autoImplicit false

namespace FlightComputer

open Library Firmware BoardTester

/-- The firmware's framer on a sequence of chunks, with the lines it delivers. -/
def frameChunks (chunks : List Bytes) : Firmware.NewlineFramer × List Bytes :=
  chunks.foldl (fun state chunk => newlineFramerConsume captureLine state.1 chunk state.2)
    (newlineFramerInitialize, [])

/-- **One specification, two framers.** Fed the same stream in chunks of their
own, the framers deliver the lines of the line protocol. The tester's results,
taken and waiting, are the protocol's events in order, so that each completed
oversized segment raises one error in its place; the firmware's counter is that
number of errors modulo 2^32, and one more exactly while an oversized segment is
being discarded. -/
theorem framers_agree (chunks : List Bytes) (calls : List FramerCall)
    (sameStream : fedBytes calls = chunks.flatten) :
    (frameChunks chunks).2 = framedLines newlineFramerMaxLineLength chunks.flatten ∧
      (runFramerCalls maxLineLength calls).2 ++
          (runFramerCalls maxLineLength calls).1.events.map eventOf =
        framingEvents newlineFramerMaxLineLength chunks.flatten ∧
      ((runFramerCalls maxLineLength calls).2 ++
          (runFramerCalls maxLineLength calls).1.events.map eventOf).filterMap
            FramingEvent.delivered = (frameChunks chunks).2 ∧
      (frameChunks chunks).1.overflowCount =
        UInt32.ofNat (((runFramerCalls maxLineLength calls).2 ++
            (runFramerCalls maxLineLength calls).1.events.map eventOf).count .tooLong +
          if newlineFramerMaxLineLength < (unfinished chunks.flatten).length then 1 else 0) ∧
      ((frameChunks chunks).1.discarding = true ↔
        newlineFramerMaxLineLength < (unfinished chunks.flatten).length) := by
  have whole : frameChunks chunks =
      newlineFramerConsume captureLine newlineFramerInitialize chunks.flatten [] :=
    foldl_newlineFramerConsume captureLine newlineFramerInitialize [] chunks
  obtain ⟨follows, lines⟩ := newlineFramerConsume_initialize chunks.flatten
  rw [← whole] at follows lines
  have events := (NewlineFramer.Follows.runFramerCalls maxLineLength calls).events_eq
  rw [sameStream] at events
  change _ = framingEvents newlineFramerMaxLineLength chunks.flatten at events
  refine ⟨lines, events, ?_, ?_, follows.long_iff⟩
  · rw [events, lines, framedLines]
  · rw [events, follows.overflowCount_eq, follows.discarding_eq, oversizedCount]
    simp only [decide_eq_true_eq]

/-- The same stream in two chunks, cut inside CRLF, and taken once in between. -/
theorem framers_agree_split_crlf :
    (frameChunks [[97, 13], [10]]).2 = [[97]] ∧
      (runFramerCalls maxLineLength [.feed [97], .popLine, .feed [13, 10], .popLine]).2 =
        [.line [97]] := by
  have agreement := framers_agree [[97, 13], [10]]
    [.feed [97], .popLine, .feed [13, 10], .popLine] rfl
  exact ⟨agreement.1.trans rfl, by decide⟩

end FlightComputer
