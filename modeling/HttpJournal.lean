import HttpJournal.Handler
import HttpJournal.Capture.Service
import HttpJournal.Settings
import HttpJournal.Formatter
import HttpJournal.Json.Readable
import HttpJournal.Logger
import HttpJournal.Placeholder
import HttpJournal.Record
import HttpJournal.Template
import HttpJournal.Time.Stamp
import HttpJournal.Time.ZoneTable
import HttpJournal.Proofs.Delimiter
import HttpJournal.Proofs.Utf8
import HttpJournal.Proofs.Assoc
import HttpJournal.Proofs.FlatRecord
import HttpJournal.Proofs.Placeholder
import HttpJournal.Proofs.TemplateRecord
import HttpJournal.Proofs.Decimal
import HttpJournal.Proofs.JsonNumber
import HttpJournal.Proofs.JsonString
import HttpJournal.Proofs.JsonValue
import HttpJournal.Proofs.JournalLine
import HttpJournal.Proofs.StandardLine
import HttpJournal.Proofs.Calendar
import HttpJournal.Proofs.Timestamp
import HttpJournal.Proofs.JsonBody
import HttpJournal.Proofs.Charset
import HttpJournal.Proofs.Expansion
import HttpJournal.Proofs.UnkeptBody
import HttpJournal.Proofs.Tee
import HttpJournal.Proofs.Traffic
import HttpJournal.Proofs.Delivery
import HttpJournal.Proofs.TextParts
import HttpJournal.Proofs.ConsoleLine
import HttpJournal.Proofs.LocalTime
import HttpJournal.Proofs.WireMessage
import HttpJournal.Proofs.StringInside
import HttpJournal.Proofs.RepeatedKeys
import HttpJournal.Proofs.CompactText
import HttpJournal.Proofs.ReadableTwice
import HttpJournal.Proofs.FormatItems
import HttpJournal.Proofs.HeaderView
import HttpJournal.Proofs.StampForm
import HttpJournal.Proofs.RefusedField
import HttpJournal.Proofs.MediaType
import HttpJournal.Proofs.FormatLaws
import HttpJournal.Proofs.IntegerArgument
import HttpJournal.Proofs.LocalizedTwice
import HttpJournal.Proofs.SplitCursor
import HttpJournal.Proofs.RecordOrder
import HttpJournal.Proofs.CallId
import HttpJournal.Proofs.FieldNames
