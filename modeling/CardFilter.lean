import CardFilter.Number.Literal
import CardFilter.Text.Blank
import CardFilter.Text.Quoted
import CardFilter.Text.Letters
import CardFilter.Text.EditDistance
import CardFilter.Json.Writer
import CardFilter.Json.Strict
import CardFilter.Json.Relaxed
import CardFilter.Json.Record
import CardFilter.Condition.Basic
import CardFilter.Condition.Decode
import CardFilter.Condition.Parse
import CardFilter.Condition.Completeness
import CardFilter.Condition.Rendering
import CardFilter.Condition.References
import CardFilter.Condition.LinkKey
import CardFilter.Condition.Preset
import CardFilter.Condition.Position
import CardFilter.Condition.Edit
import CardFilter.Names.Codec
import CardFilter.Names.Endpoint
import CardFilter.Names.Message
import CardFilter.Session.Run
import CardFilter.Settings.Key
import CardFilter.Settings.File
import CardFilter.Command.Call
import CardFilter.Main
import CardFilter.Proofs.Condition.RoundTrip
import CardFilter.Proofs.Condition.Discarded
import CardFilter.Proofs.Session.LateAnswers
import CardFilter.Proofs.Session.Chronicle
import CardFilter.Proofs.Condition.Readers
import CardFilter.Proofs.Condition.Missing
import CardFilter.Proofs.Condition.Texts
import CardFilter.Proofs.Settings.Override
import CardFilter.Proofs.Condition.References
import CardFilter.Proofs.Session.Named
import CardFilter.Proofs.Condition.Normal
import CardFilter.Proofs.Command.Verdicts
import CardFilter.Proofs.Names.Labels
import CardFilter.Proofs.Condition.Faults
import CardFilter.Proofs.Condition.Damage
import CardFilter.Proofs.Command.Loading
import CardFilter.Proofs.Condition.Entries
import CardFilter.Proofs.Condition.Needs
import CardFilter.Proofs.Condition.Valueless
import CardFilter.Proofs.Condition.Pushes
import CardFilter.Proofs.Condition.LinkKeys
import CardFilter.Proofs.Calendar.Dates
import CardFilter.Proofs.Condition.Suggestions
import CardFilter.Proofs.Settings.Changes
import CardFilter.Proofs.Condition.FieldPresets
import CardFilter.Proofs.Condition.Unambiguous
