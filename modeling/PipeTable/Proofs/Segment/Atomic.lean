import PipeTable.Proofs.Segment.Ending

/-!
# Segments of segments

A segment cannot be split any further.  A run of backticks that is open in the line is open in each
part of it, and one that opens a span in a segment closes it there, or else the span would hold the
pipe at which the segment ends; so a segment is scanned alone as it was scanned in the line
(`segments_of_mem`).

The main statement, `segments_lossless_and_atomic`, puts this beside the fact that nothing of the
line is lost.  That there is nothing lost and nothing to split could also be said of a scan that
never splits, which is why the number of the segments is told from the pipes that split the line.
-/

namespace PipeTable

open Segment

/-- A segment alone is a single segment. -/
lemma segments_of_mem {line s : Text} (h : s ∈ segments line) : segments s = [s] := by
  induction hn : line.length using Nat.strong_induction_on generalizing line with
  | _ n ih =>
    rcases splitFrom_cases (Nat.zero_le (line.length + 1)) with
      ⟨hsplit, -⟩ | ⟨t, u, rfl, hsplit, hwhole⟩
    · rw [segments, hsplit, List.mem_singleton] at h
      rw [h, segments, hsplit]
    · rw [segments, hsplit] at h
      rcases List.mem_cons.1 h with rfl | h
      · exact splitFrom_of_isWhole hwhole
      · have hlt : u.length < n := by
          rw [← hn, List.length_append, List.length_cons]
          omega
        exact ih u.length hlt h rfl

/-- The segments with pipes between them are the line, none of them can be split any further, and
there is one more of them than there are pipes in the line that are neither escaped nor in a code
span. -/
theorem segments_lossless_and_atomic (line : Text) :
    List.intercalate [pipe] (segments line) = line ∧ (∀ s ∈ segments line, segments s = [s]) ∧
      ∃ tokens, Reads .longestTail line tokens ∧
        (segments line).length = tokens.count .pipe + 1 := by
  obtain ⟨tokens, hreads⟩ := exists_reads .longestTail line
  refine ⟨join_segments line, fun s hs => segments_of_mem hs, tokens, hreads, ?_⟩
  rw [hreads.segments_eq, length_separated]

/-- A span that holds a pipe and a run of another size, an open run at the end of a segment, and a
backslash at the end of the line. -/
theorem segments_lossless_and_atomic_open :
    segments "`a|``b`|c`|d\\".toList = ["`a|``b`".toList, "c`".toList, "d\\".toList] ∧
      segments "`a|``b`".toList = ["`a|``b`".toList] ∧ segments "c`".toList = ["c`".toList] ∧
      segments "d\\".toList = ["d\\".toList] := by
  obtain ⟨-, hatomic, -⟩ := segments_lossless_and_atomic "`a|``b`|c`|d\\".toList
  have hsegments : segments "`a|``b`|c`|d\\".toList =
      ["`a|``b`".toList, "c`".toList, "d\\".toList] := by decide
  refine ⟨hsegments, hatomic _ ?_, hatomic _ ?_, hatomic _ ?_⟩ <;> rw [hsegments] <;> simp

end PipeTable
