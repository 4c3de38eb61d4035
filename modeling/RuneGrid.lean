import RuneGrid.CommandLine.Machine
import RuneGrid.Main
import RuneGrid.Sink.Stream
import RuneGrid.Proofs.Grid.Landing
import RuneGrid.Proofs.Grid.Stranding
import RuneGrid.Proofs.Execution.Pass
import RuneGrid.Proofs.Execution.Position
import RuneGrid.Proofs.Execution.Stranding
import RuneGrid.Proofs.Execution.Frame
import RuneGrid.Proofs.Grid.Reading
import RuneGrid.Proofs.Grid.Torus
import RuneGrid.Proofs.Execution.Blame
import RuneGrid.Proofs.Execution.Stepping
import RuneGrid.Proofs.Execution.Halting
import RuneGrid.Proofs.Pentimal.Cluster
import RuneGrid.Proofs.Pentimal.Grammar
import RuneGrid.Proofs.Pentimal.Numeral
import RuneGrid.Proofs.Pentimal.Partition
import RuneGrid.Proofs.Grid.Listing
import RuneGrid.Proofs.Execution.SharedStack
import RuneGrid.Proofs.Execution.Aground
import RuneGrid.Proofs.Execution.Done
import RuneGrid.Proofs.Execution.Isolation
import RuneGrid.Proofs.Execution.Streaming
import RuneGrid.Proofs.Execution.Chronicle
import RuneGrid.Proofs.Grid.Formula
import RuneGrid.Proofs.Grid.Columns
import RuneGrid.Proofs.Arithmetic
import RuneGrid.Proofs.Execution.Bounded
import RuneGrid.Proofs.Report
import RuneGrid.Proofs.Execution.Writing
import RuneGrid.Proofs.CommandLine.Files
import RuneGrid.Proofs.CommandLine.Listing
import RuneGrid.Proofs.CommandLine.Output
import RuneGrid.Proofs.CommandLine.Flags
import RuneGrid.Proofs.Text.Lines
import RuneGrid.Proofs.Sink.Attempts
import RuneGrid.Proofs.Grid.Seeding
import RuneGrid.Proofs.Grid.Words
import RuneGrid.Proofs.Execution.Nearby
