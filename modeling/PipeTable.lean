import PipeTable.Session
import PipeTable.Proofs.Delimiter
import PipeTable.Proofs.Refusal
import PipeTable.Proofs.Reading.Readable
import PipeTable.Proofs.Formatting.Reshape
import PipeTable.Proofs.Completion
import PipeTable.Proofs.Filling
import PipeTable.Proofs.Cursor.Span
import PipeTable.Proofs.Reformat.Tidy
import PipeTable.Proofs.Reformat.Lines
import PipeTable.Proofs.Reformat.Again
import PipeTable.Proofs.Reading.SelfContained
import PipeTable.Proofs.Edit.SelfContained
import PipeTable.Proofs.Edit.Delimiter
import PipeTable.Proofs.Edit.Origin
import PipeTable.Proofs.Edit.Columns
import PipeTable.Proofs.Edit.Complete
import PipeTable.Proofs.Formatting.Width
import PipeTable.Proofs.Reformat.Width
import PipeTable.Proofs.Segment.Run
import PipeTable.Proofs.Segment.Token
import PipeTable.Proofs.Segment.Ending
import PipeTable.Proofs.Reading.Reread
import PipeTable.Proofs.Edit.Overreach
import PipeTable.Proofs.Completion.Dashes
import PipeTable.Proofs.Reformat.Quoting
import PipeTable.Proofs.Scopes
import PipeTable.Proofs.Completion.Foci
import PipeTable.Proofs.Formatting.Again
import PipeTable.Proofs.Formatting.Faults
import PipeTable.Proofs.Reformat.Faults
import PipeTable.Proofs.Sequence.Move
import PipeTable.Proofs.Edit.Rows
import PipeTable.Proofs.Edit.Undo
import PipeTable.Proofs.Edit.Commute
import PipeTable.Proofs.Formatting.Moves
import PipeTable.Proofs.Cursor.Tiling
import PipeTable.Proofs.Cursor.Snap
import PipeTable.Proofs.Cursor.Selection
import PipeTable.Proofs.Delimiter.Reading
import PipeTable.Proofs.Reading.Pieces
import PipeTable.Proofs.Segment.Atomic
import PipeTable.Proofs.Edit.Alignment
