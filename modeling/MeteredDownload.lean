import MeteredDownload.Arguments
import MeteredDownload.Body
import MeteredDownload.Certificate.Load
import MeteredDownload.CommandLine
import MeteredDownload.Display
import MeteredDownload.Files.Save
import MeteredDownload.Http.Download
import MeteredDownload.Log.Journal
import MeteredDownload.Main
import MeteredDownload.Report.Snapshot
import MeteredDownload.Settings
import MeteredDownload.SpeedWindow
import MeteredDownload.Transfer
import MeteredDownload.Proofs.Binary64
import MeteredDownload.Proofs.ByteBuffer
import MeteredDownload.Proofs.Body
import MeteredDownload.Proofs.Delivery
import MeteredDownload.Proofs.Display
import MeteredDownload.Proofs.Independence
import MeteredDownload.Proofs.Listening
import MeteredDownload.Proofs.Truncation
import MeteredDownload.Url.Parser
import MeteredDownload.Proofs.Course
import MeteredDownload.Proofs.Segments
import MeteredDownload.Proofs.Printable
import MeteredDownload.Proofs.Screen
import MeteredDownload.Proofs.Redraw
import MeteredDownload.Proofs.Release
import MeteredDownload.Proofs.Acquisition
import MeteredDownload.Proofs.Interruption
import MeteredDownload.Proofs.ByteQueue
import MeteredDownload.Proofs.Notes
import MeteredDownload.Proofs.Classification
import MeteredDownload.Proofs.FileTree
import MeteredDownload.Proofs.AllOrNothing
import MeteredDownload.Proofs.Freeing
import MeteredDownload.Proofs.Backing
import MeteredDownload.Proofs.Rounding
import MeteredDownload.Proofs.Beats
import MeteredDownload.Proofs.Stages
import MeteredDownload.Proofs.Agreement
import MeteredDownload.Proofs.Pace
import MeteredDownload.Proofs.Grammar
import MeteredDownload.Proofs.DefaultName
import MeteredDownload.Proofs.Exactness
import MeteredDownload.Proofs.Decimal
import MeteredDownload.Proofs.Legible
import MeteredDownload.Proofs.Speed
import MeteredDownload.Proofs.Output
import MeteredDownload.Proofs.Soundness
import MeteredDownload.Proofs.Rate
import MeteredDownload.Proofs.Window
import MeteredDownload.Proofs.Announcement
import MeteredDownload.Proofs.Sizes
import MeteredDownload.Proofs.Durations
import MeteredDownload.Proofs.Growth
import MeteredDownload.Proofs.Complaints
import MeteredDownload.Proofs.Contents
import MeteredDownload.Proofs.Routing
