import SpecLexicon.Main
import SpecLexicon.Registry.ErrorValue
import SpecLexicon.Registry.Session
import SpecLexicon.Settings.Replacement
import SpecLexicon.Proofs.Registry.Listening
import SpecLexicon.Proofs.Registry.Operation
import SpecLexicon.Proofs.Registry.Derived
import SpecLexicon.Proofs.Registry.Rebuilding
import SpecLexicon.Proofs.Registry.Announcing
import SpecLexicon.Proofs.Registry.Loading
import SpecLexicon.Proofs.Registry.Settled
import SpecLexicon.Proofs.Registry.Incremental
import SpecLexicon.Proofs.Registry.DatabaseLoad
import SpecLexicon.Proofs.Registry.LoadTracking
import SpecLexicon.Proofs.Registry.BackgroundLoads
import SpecLexicon.Proofs.Template.Rebuild
import SpecLexicon.Proofs.Database.Forms
import SpecLexicon.Proofs.Template.Grammar
import SpecLexicon.Proofs.Template.Pattern
import SpecLexicon.Proofs.Database.Acceptance
import SpecLexicon.Proofs.Registry.Documents
import SpecLexicon.Proofs.CommandLine.Manual
import SpecLexicon.Proofs.Registry.Compiling
import SpecLexicon.Proofs.Registry.Contents
import SpecLexicon.Proofs.Registry.Undisturbed
import SpecLexicon.Proofs.Mnemonic.Pattern
import SpecLexicon.Proofs.Outline
import SpecLexicon.Proofs.Database.Outline
import SpecLexicon.Proofs.Manual.Headings
import SpecLexicon.Proofs.Registry.Headings
import SpecLexicon.Proofs.Registry.ManualCommand
import SpecLexicon.Proofs.Template.Typed
import SpecLexicon.Proofs.Template.Reprint
import SpecLexicon.Proofs.Settings.Templates
import SpecLexicon.Proofs.Uri.Canonical
import SpecLexicon.Proofs.Mnemonic.Reprint
import SpecLexicon.Proofs.Template.Segments
import SpecLexicon.Proofs.Template.Collapse
import SpecLexicon.Proofs.Template.Nesting
import SpecLexicon.Proofs.Template.Fallback
import SpecLexicon.Proofs.Completion
import SpecLexicon.Proofs.Manual.Sections
import SpecLexicon.Proofs.Registry.Configured
import SpecLexicon.Proofs.Store.Entries
import SpecLexicon.Proofs.Store.Operations
import SpecLexicon.Proofs.Settings.Sections
import SpecLexicon.Proofs.Registry.Polling
