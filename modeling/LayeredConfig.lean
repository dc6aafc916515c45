import LayeredConfig.Proofs.Session.Lifetime
import LayeredConfig.Proofs.Session.Quiet
import LayeredConfig.Proofs.Source.Coherence
import LayeredConfig.Proofs.Source.EmptyKey
import LayeredConfig.Proofs.Source.FileDocuments
import LayeredConfig.Proofs.Source.JoinedArguments
import LayeredConfig.Proofs.Source.Snapshot
import LayeredConfig.Proofs.Source.VariableNames
import LayeredConfig.Proofs.Source.WrittenArguments
import LayeredConfig.Proofs.Stack.Access
import LayeredConfig.Proofs.Stack.Families
import LayeredConfig.Proofs.Stack.Listing
import LayeredConfig.Proofs.Stack.Masking
import LayeredConfig.Proofs.Stack.Order
import LayeredConfig.Proofs.Stack.Overlay
import LayeredConfig.Proofs.Stack.Precedence
import LayeredConfig.Proofs.Stack.Records
import LayeredConfig.Proofs.Stack.SecretKeys
import LayeredConfig.Proofs.Stack.Validation
import LayeredConfig.Proofs.Value.BuiltIn
import LayeredConfig.Proofs.Value.DelimitedLists
import LayeredConfig.Proofs.Value.IntegerNumerals
import LayeredConfig.Proofs.Value.SelectionGrammar
import LayeredConfig.Proofs.Value.TruthWords
import LayeredConfig.Proofs.Value.WrittenSelections
import LayeredConfig.Proofs.Yaml.DocumentOrder
import LayeredConfig.Proofs.Yaml.Flattening
import LayeredConfig.Proofs.Yaml.Subtrees
import LayeredConfig.Session.Builder
import LayeredConfig.Source.Foreign
import LayeredConfig.Stack.Listing
import LayeredConfig.Stack.Validation
