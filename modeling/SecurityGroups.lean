import SecurityGroups.Batch
import SecurityGroups.Check
import SecurityGroups.Checker
import SecurityGroups.Column.Cell
import SecurityGroups.Column.Row
import SecurityGroups.Column.Schema
import SecurityGroups.Decimal.Shortest
import SecurityGroups.Entity.Basic
import SecurityGroups.Entity.Group
import SecurityGroups.Entity.Region
import SecurityGroups.Entity.RuleEntry
import SecurityGroups.Json.Basic
import SecurityGroups.Json.Members
import SecurityGroups.Json.Numeral
import SecurityGroups.Json.Printer
import SecurityGroups.Json.Reader
import SecurityGroups.Main
import SecurityGroups.Naming
import SecurityGroups.Network.Address
import SecurityGroups.Network.Cidr
import SecurityGroups.Network.Encoding
import SecurityGroups.Network.Error
import SecurityGroups.Network.Port
import SecurityGroups.Proofs.AddressForms
import SecurityGroups.Proofs.AddressTexts
import SecurityGroups.Proofs.Assignment
import SecurityGroups.Proofs.Atomicity
import SecurityGroups.Proofs.Attribution
import SecurityGroups.Proofs.AuditTimes
import SecurityGroups.Proofs.Calls
import SecurityGroups.Proofs.Clouds
import SecurityGroups.Proofs.ColumnMerges
import SecurityGroups.Proofs.Comparisons
import SecurityGroups.Proofs.Completion
import SecurityGroups.Proofs.Conduct
import SecurityGroups.Proofs.Contents
import SecurityGroups.Proofs.Decoding
import SecurityGroups.Proofs.Disciplines
import SecurityGroups.Proofs.Effects
import SecurityGroups.Proofs.Encodings
import SecurityGroups.Proofs.Entities
import SecurityGroups.Proofs.EntryChecks
import SecurityGroups.Proofs.FilterErrors
import SecurityGroups.Proofs.FilterForms
import SecurityGroups.Proofs.FilterMeaning
import SecurityGroups.Proofs.GroupAssignment
import SecurityGroups.Proofs.GroupDeletion
import SecurityGroups.Proofs.History
import SecurityGroups.Proofs.Inventory
import SecurityGroups.Proofs.Jobs
import SecurityGroups.Proofs.LetterCase
import SecurityGroups.Proofs.ListingOrder
import SecurityGroups.Proofs.Loading
import SecurityGroups.Proofs.LostUpdates
import SecurityGroups.Proofs.Offsets
import SecurityGroups.Proofs.Operations
import SecurityGroups.Proofs.Overlays
import SecurityGroups.Proofs.Ownership
import SecurityGroups.Proofs.Paging
import SecurityGroups.Proofs.PartialAssignment
import SecurityGroups.Proofs.PortTexts
import SecurityGroups.Proofs.Races
import SecurityGroups.Proofs.Reachability
import SecurityGroups.Proofs.Regions
import SecurityGroups.Proofs.RequestChecks
import SecurityGroups.Proofs.Retrieval
import SecurityGroups.Proofs.RowForms
import SecurityGroups.Proofs.Rows
import SecurityGroups.Proofs.RuleAcceptance
import SecurityGroups.Proofs.RuleCreation
import SecurityGroups.Proofs.RuleUpdate
import SecurityGroups.Proofs.Schedules
import SecurityGroups.Proofs.Schemas
import SecurityGroups.Proofs.Selection
import SecurityGroups.Proofs.ShownValues
import SecurityGroups.Proofs.SingleCalls
import SecurityGroups.Proofs.SortedListings
import SecurityGroups.Proofs.Soundness
import SecurityGroups.Proofs.StoreRefusals
import SecurityGroups.Proofs.Tables
import SecurityGroups.Proofs.TaggedRules
import SecurityGroups.Proofs.Timestamps
import SecurityGroups.Proofs.UnknownMembers
import SecurityGroups.Proofs.UpdateChecks
import SecurityGroups.Proofs.UpdateRows
import SecurityGroups.Proofs.WellKept
import SecurityGroups.Proofs.WireForms
import SecurityGroups.Query.Filter
import SecurityGroups.Query.Page
import SecurityGroups.Record.Attribute
import SecurityGroups.Record.Kind
import SecurityGroups.Request.Any
import SecurityGroups.Request.Groups
import SecurityGroups.Request.Rules
import SecurityGroups.Rule.Any
import SecurityGroups.Rule.Aws
import SecurityGroups.Rule.Azure
import SecurityGroups.Rule.HuaWei
import SecurityGroups.Rule.Shape
import SecurityGroups.Rule.TCloud
import SecurityGroups.Service.Action
import SecurityGroups.Service.Error
import SecurityGroups.Service.Fault
import SecurityGroups.Service.Groups
import SecurityGroups.Service.Rules
import SecurityGroups.Service.Script
import SecurityGroups.Settings
import SecurityGroups.Store.Basic
import SecurityGroups.Store.Error
import SecurityGroups.Store.Match
import SecurityGroups.TableName
import SecurityGroups.Text.Alphanumeric
import SecurityGroups.Text.AsciiCase
import SecurityGroups.Text.Blank
import SecurityGroups.Text.CodePoints
import SecurityGroups.Text.Lowercase
import SecurityGroups.Text.Numeral
import SecurityGroups.Text.Part
import SecurityGroups.Text.Quoted
import SecurityGroups.Text.Split
import SecurityGroups.Time.Instant
import SecurityGroups.Time.Timestamp
import SecurityGroups.Vendor
import SecurityGroups.Violation
