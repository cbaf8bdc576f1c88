import InterpreterHost.Failure
import InterpreterHost.FileTree
import InterpreterHost.Interpreter
import InterpreterHost.Launch
import InterpreterHost.Log
import InterpreterHost.Main
import InterpreterHost.Process
import InterpreterHost.Proofs.Delivery
import InterpreterHost.Proofs.Exchange
import InterpreterHost.Proofs.Launch.History
import InterpreterHost.Proofs.Launch.Insulation
import InterpreterHost.Proofs.Launch.Notes
import InterpreterHost.Proofs.Launch.Outcomes
import InterpreterHost.Proofs.Launch.Requests
import InterpreterHost.Proofs.Launch.Spelling
import InterpreterHost.Proofs.Log.Filters
import InterpreterHost.Proofs.Process.Logging
import InterpreterHost.Proofs.Process.Waiting
import InterpreterHost.Proofs.Quoting
import InterpreterHost.Proofs.Repeater.Chunking
import InterpreterHost.Proofs.Repeater.Conversation
import InterpreterHost.Proofs.Repeater.Copying
import InterpreterHost.Proofs.Repeater.Correspondence
import InterpreterHost.Proofs.Repeater.Curtailment
import InterpreterHost.Proofs.Repeater.Readiness
import InterpreterHost.Proofs.Repeater.Recovery
import InterpreterHost.Proofs.Report.Characters
import InterpreterHost.Proofs.Report.Colors
import InterpreterHost.Proofs.Report.Decoration
import InterpreterHost.Proofs.Report.Failures
import InterpreterHost.Proofs.Report.Fitting
import InterpreterHost.Proofs.Report.Leads
import InterpreterHost.Proofs.Report.Reading
import InterpreterHost.Proofs.Report.Sections
import InterpreterHost.Proofs.Stream.Calls
import InterpreterHost.Proofs.Stream.Chunks
import InterpreterHost.Proofs.Stream.Interruptions
import InterpreterHost.Proofs.Stream.Pieces
import InterpreterHost.Proofs.Stream.Segments
import InterpreterHost.Proofs.Stream.Trace
import InterpreterHost.Proofs.Text.Filling
import InterpreterHost.Proofs.Text.Rows
import InterpreterHost.Report
import InterpreterHost.Stream
import InterpreterHost.Text.CharacterClass
import InterpreterHost.Text.Encoding
import InterpreterHost.Text.Fields
import InterpreterHost.Text.LineBreak
import InterpreterHost.Text.Wrap
