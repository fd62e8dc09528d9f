import QueryAssist.Session.Command
import QueryAssist.Session.Feature
import QueryAssist.Json.Writer
import QueryAssist.Proofs.Grammar.Reading
import QueryAssist.Proofs.Grammar.Containers
import QueryAssist.Proofs.Grammar.Members
import QueryAssist.Proofs.Cursor.Words
import QueryAssist.Proofs.Position.Lines
import QueryAssist.Proofs.Completion.Edit
import QueryAssist.Proofs.Completion.Accept
import QueryAssist.Proofs.Cursor.Colon
import QueryAssist.Proofs.Cursor.Representation
import QueryAssist.Proofs.Completion.Fields
import QueryAssist.Proofs.Completion.KeyAccepted
import QueryAssist.Proofs.Completion.Typing
import QueryAssist.Proofs.Completion.Elements
import QueryAssist.Proofs.Session.Failures
import QueryAssist.Proofs.Completion.Filtering
import QueryAssist.Proofs.Position.Inverse
import QueryAssist.Proofs.Completion.Admission
import QueryAssist.Proofs.Completion.Surroundings
import QueryAssist.Proofs.Field.Faults
import QueryAssist.Proofs.Field.Reencoding
import QueryAssist.Proofs.Completion.SortTexts
import QueryAssist.Proofs.Completion.Literals
import QueryAssist.Proofs.Completion.Distinct
import QueryAssist.Proofs.Completion.Growing
import QueryAssist.Proofs.Cursor.Keywords
import QueryAssist.Proofs.Field.Forms
import QueryAssist.Proofs.Field.Walk
import QueryAssist.Proofs.Field.TypeNames
import QueryAssist.Proofs.Hover
import QueryAssist.Proofs.Position.Order
import QueryAssist.Proofs.Session.Canonical
import QueryAssist.Proofs.Workspace.FileUris
import QueryAssist.Proofs.Catalog.Stripping
import QueryAssist.Proofs.Session.OpenDocuments
import QueryAssist.Proofs.Session.Settings
