import ZodValidators.Main
import ZodValidators.Session
import ZodValidators.Proofs.FieldCompilation
import ZodValidators.Proofs.Traversal
import ZodValidators.Proofs.Filtering
import ZodValidators.Proofs.Sdl.Documents
import ZodValidators.Proofs.Sdl.Places
import ZodValidators.Proofs.Sdl.FieldLines
import ZodValidators.Proofs.Sdl.Closure
import ZodValidators.Proofs.FailurePosition
import ZodValidators.Proofs.ScalarAdvice
import ZodValidators.Proofs.UniqueReading
import ZodValidators.Proofs.Snapshot.Closure
import ZodValidators.Proofs.CommandLine.Generate
import ZodValidators.Proofs.Sdl.DistinctNames
import ZodValidators.Proofs.Reordering
import ZodValidators.Proofs.Sdl.DefinitionOrder
import ZodValidators.Proofs.Snapshot.RoundTrip
import ZodValidators.Proofs.SessionHistory
import ZodValidators.Proofs.PascalCase
import ZodValidators.Proofs.Snapshot.EnumDeclarations
import ZodValidators.Proofs.FrozenScalars
import ZodValidators.Proofs.ModuleReading
import ZodValidators.Proofs.UnionBranches
import ZodValidators.Proofs.Laziness
import ZodValidators.Proofs.Sdl.InputMerging
import ZodValidators.Proofs.CommandLine.ScalarMappings
import ZodValidators.Proofs.Snapshot.Spelling
import ZodValidators.Proofs.Sdl.Sources
import ZodValidators.Proofs.Escaping
import ZodValidators.Proofs.RegistryHistory
