import VideoPosters.Text.Letter
import VideoPosters.Text.Digit
import VideoPosters.Text.Blank
import VideoPosters.Text.Utf8
import VideoPosters.Text.Quoted
import VideoPosters.Decimal.Shortest
import VideoPosters.Json.Reading
import VideoPosters.Text.Pieces
import VideoPosters.Duration
import VideoPosters.Link
import VideoPosters.Specifier
import VideoPosters.Template.Compile
import VideoPosters.Url.Parse
import VideoPosters.Url.Form
import VideoPosters.Failure
import VideoPosters.Video
import VideoPosters.Options
import VideoPosters.Files
import VideoPosters.Template.Site
import VideoPosters.Player.Script
import VideoPosters.Video.Service
import VideoPosters.Settings.Location
import VideoPosters.Html.ReferenceNames
import VideoPosters.Html.Reference
import VideoPosters.Html.Token
import VideoPosters.Html.Tree
import VideoPosters.Html.Draft
import VideoPosters.Html.Stack
import VideoPosters.Html.Builder
import VideoPosters.Html.Rules.Head
import VideoPosters.Html.Rules.Body
import VideoPosters.Html.Rules.Table
import VideoPosters.Html.Rules.Rest
import VideoPosters.Html.Rules.Foreign
import VideoPosters.Html.Parse
import VideoPosters.Page
import VideoPosters.Player.Load
import VideoPosters.Player.Run
import VideoPosters.Template.Shelf
import VideoPosters.Poster.Basic
import VideoPosters.Poster.Placing
import VideoPosters.Poster.Making
import VideoPosters.Waiting
import VideoPosters.Rehearsal.Loading
import VideoPosters.Rehearsal.Fetching
import VideoPosters.Rehearsal.Stage
import VideoPosters.CommandLine.Program
import VideoPosters.Main
import VideoPosters.Player.Click
import VideoPosters.Proofs.Template.Expression
import VideoPosters.Proofs.Template.Marks
import VideoPosters.Proofs.Template.Layout
import VideoPosters.Proofs.History
import VideoPosters.Proofs.Player.Steps
import VideoPosters.Proofs.Player.Once
import VideoPosters.Proofs.Player.Agreement
import VideoPosters.Proofs.Template.ShelfSteps
import VideoPosters.Proofs.Template.Keeping
import VideoPosters.Proofs.Rehearsal.Loading
import VideoPosters.Proofs.Rehearsal.Fetching
import VideoPosters.Proofs.Poster.Metadata
import VideoPosters.Proofs.Poster.Targets
import VideoPosters.Proofs.Url.Join
import VideoPosters.Proofs.Template.Origin
import VideoPosters.Proofs.Template.Transparency
import VideoPosters.Proofs.Template.Joining
import VideoPosters.Proofs.Template.Canonical
import VideoPosters.Proofs.Player.Clicks
import VideoPosters.Proofs.Rehearsal.Clicking
import VideoPosters.Proofs.Text.Utf8
import VideoPosters.Proofs.Text.Places
import VideoPosters.Proofs.Url.Form
import VideoPosters.Proofs.Video.Request
import VideoPosters.Proofs.Json.Order
import VideoPosters.Proofs.Json.Rereading
import VideoPosters.Proofs.Json.Readers
import VideoPosters.Proofs.Video.Thumbnails
import VideoPosters.Proofs.Video.Records
import VideoPosters.Proofs.CommandLine.Output
import VideoPosters.Proofs.Poster.Attempt
import VideoPosters.Proofs.Poster.Rounds
import VideoPosters.Proofs.Poster.Together
import VideoPosters.Proofs.Video.RoundTrip
import VideoPosters.Proofs.Video.TemplateData
import VideoPosters.Proofs.Template.Faults
import VideoPosters.Proofs.Template.Refusals
import VideoPosters.Proofs.Player.Requests
import VideoPosters.Proofs.Player.Refused
import VideoPosters.Proofs.CommandLine.Checks
import VideoPosters.Proofs.Text.Pattern
import VideoPosters.Proofs.Duration.Components
import VideoPosters.Proofs.Duration.Scanning
import VideoPosters.Proofs.Duration.Matching
import VideoPosters.Proofs.Duration.Writing
import VideoPosters.Proofs.Duration.Display
import VideoPosters.Proofs.Poster.Deeds
import VideoPosters.Proofs.Link.Grammar
import VideoPosters.Proofs.Url.Unmarked
import VideoPosters.Proofs.Url.Written
import VideoPosters.Proofs.Video.Parameters
import VideoPosters.Proofs.Template.Arrays
import VideoPosters.Proofs.Template.Directory
import VideoPosters.Proofs.CommandLine.Comment
import VideoPosters.Proofs.Html.TreeOrder
import VideoPosters.Proofs.Page.Scanning
import VideoPosters.Proofs.Json.Spelling
import VideoPosters.Proofs.Json.Grammar
import VideoPosters.Proofs.Json.Integers
import VideoPosters.Proofs.Settings.Overlay
import VideoPosters.Proofs.Template.Cursor
import VideoPosters.Proofs.Page.LinkText
