import FormEngine.Json.Reader
import FormEngine.Json.Printer
import FormEngine.Json.Nesting
import FormEngine.Json.Pointer
import FormEngine.Values.Shape
import FormEngine.Schema.Validation
import FormEngine.Schema.Encode
import FormEngine.Schema.Outline
import FormEngine.Form.Defaults
import FormEngine.Form.Submission
import FormEngine.Form.Constraints
import FormEngine.Pattern.Property
import FormEngine.Pattern.Language
import FormEngine.Lookup.Remote
import FormEngine.Session.State
import FormEngine.Diagnostics.Event
import FormEngine.Store.Persistence
import FormEngine.Store.Desk
import FormEngine.Integration.Session
import FormEngine.AutoSave.Session
import FormEngine.Toml.Reader
import FormEngine.Config.Load
import FormEngine.Proofs.Schema.Agreement
import FormEngine.Proofs.Integration.Lookups
import FormEngine.Proofs.Integration.Resources
import FormEngine.Proofs.Schema.Places
import FormEngine.Proofs.Schema.Admission
import FormEngine.Proofs.Schema.Positions
import FormEngine.Proofs.Form.Gathering
import FormEngine.Proofs.Form.Submission
import FormEngine.Proofs.Form.Resubmission
import FormEngine.Proofs.Form.Constraints
import FormEngine.Proofs.Form.Defaults
import FormEngine.Proofs.Form.Prefilling
import FormEngine.Proofs.Config.Saving
import FormEngine.Proofs.Json.RoundTrip
import FormEngine.Proofs.Schema.Depth
import FormEngine.Proofs.Config.GroupDepth
import FormEngine.Proofs.Schema.Encoding
import FormEngine.Proofs.Schema.Restoring
import FormEngine.Proofs.Schema.Inverse
import FormEngine.Proofs.Json.Size
import FormEngine.Proofs.Integration.Independence
import FormEngine.Proofs.Values.Effect
import FormEngine.Proofs.Session.Publication
import FormEngine.Proofs.AutoSave.Pending
import FormEngine.Proofs.AutoSave.Saves
import FormEngine.Proofs.Form.Influence
import FormEngine.Proofs.Store.Calls
import FormEngine.Proofs.Store.Resaving
import FormEngine.Proofs.Form.Contents
import FormEngine.Proofs.Config.Checked
import FormEngine.Proofs.Config.StorePath
import FormEngine.Proofs.Form.Compilation
import FormEngine.Proofs.Files.Tree
import FormEngine.Proofs.Text.Order
import FormEngine.Proofs.Store.Reopening
import FormEngine.Proofs.Store.Serving
import FormEngine.Proofs.Store.Sharing
import FormEngine.Proofs.Json.Pointer
import FormEngine.Proofs.Contract.Following
import FormEngine.Proofs.Contract.Places
import FormEngine.Proofs.Contract.Within
import FormEngine.Proofs.Schema.Reports
import FormEngine.Proofs.Integration.Applying
import FormEngine.Proofs.Integration.Payloads
import FormEngine.Proofs.Schema.Repeats
import FormEngine.Proofs.Integration.Numbering
import FormEngine.Proofs.Diagnostics.Recording
