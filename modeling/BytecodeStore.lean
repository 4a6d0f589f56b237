import BytecodeStore.Bytecode.Workload
import BytecodeStore.Growth.Config
import BytecodeStore.Json.Mismatch
import BytecodeStore.Main
import BytecodeStore.Proofs.Bytecode.Walk
import BytecodeStore.Proofs.Storage.Canonical
import BytecodeStore.Proofs.Storage.History
import BytecodeStore.Proofs.Storage.Pieces
import BytecodeStore.Proofs.Storage.Trace
import BytecodeStore.Proofs.Command.Output
import BytecodeStore.Storage.Session
import BytecodeStore.Proofs.Command.Inputs
import BytecodeStore.Proofs.Files.Writing
import BytecodeStore.Proofs.Bytecode.Loading
import BytecodeStore.Proofs.Command.Emission
import BytecodeStore.Proofs.Command.Strictness
import BytecodeStore.Proofs.Command.Words
import BytecodeStore.Proofs.Growth.Doubling
import BytecodeStore.Proofs.Storage.Amortized
import BytecodeStore.Proofs.Bytecode.LoadStages
import BytecodeStore.Proofs.Bytecode.ListingText
import BytecodeStore.Proofs.Json.Tokens
import BytecodeStore.Proofs.Json.Skipping
import BytecodeStore.Proofs.Json.Unambiguous
import BytecodeStore.Proofs.Json.Writing
import BytecodeStore.Proofs.Bytecode.SummaryText
import BytecodeStore.Proofs.Growth.Config
import BytecodeStore.Proofs.Files.Directories
import BytecodeStore.Proofs.Files.Rewriting
import BytecodeStore.Storage.Backing
import BytecodeStore.Proofs.Storage.Backing
import BytecodeStore.Proofs.Storage.Units
import BytecodeStore.Bytecode.Watched
import BytecodeStore.Proofs.Storage.Watched
import BytecodeStore.Proofs.Bytecode.Watched
import BytecodeStore.Proofs.Bytecode.Reencoding
import BytecodeStore.Proofs.Command.Numbers
import BytecodeStore.Proofs.Growth.Questions
import BytecodeStore.Proofs.Growth.Standard
import BytecodeStore.Proofs.Command.Clauses
import BytecodeStore.Proofs.Command.Arrangement
import BytecodeStore.Proofs.Storage.InPlace
