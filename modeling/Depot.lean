import Depot.Path.Namespace
import Depot.Footer
import Depot.Checksum.Sha256
import Depot.SortedMap
import Depot.Dialogue
import Depot.Stream
import Depot.Client.Call
import Depot.Client.Faults
import Depot.Memory.Client
import Depot.Directory
import Depot.Transfer
import Depot.Repository
import Depot.Session
import Depot.Service
import Depot.Backend
import Depot.CommandLine
import Depot.Main
import Depot.Proofs.Runs
import Depot.Proofs.Transcripts
import Depot.Proofs.Reports
import Depot.Proofs.Surfacing
import Depot.Proofs.Outlines
import Depot.Proofs.Parties
import Depot.Proofs.Failures
import Depot.Proofs.Keys
import Depot.Proofs.Objects
import Depot.Proofs.Markers
import Depot.Proofs.Upkeep
import Depot.Proofs.Attempts
import Depot.Proofs.Reading
import Depot.Proofs.Download
import Depot.Proofs.Records
import Depot.Proofs.Upload
import Depot.Proofs.Intact
import Depot.Proofs.Backup
import Depot.Proofs.ByteOrder
import Depot.Proofs.Pagination
import Depot.Proofs.Writers
import Depot.Proofs.Children
import Depot.Proofs.Deletion
import Depot.Proofs.Visibility
import Depot.Proofs.Existence
import Depot.Proofs.Restore
import Depot.Proofs.Leftovers
import Depot.Proofs.Confinement
import Depot.Proofs.Sessions
import Depot.Proofs.Workers
import Depot.Proofs.Interleaving
import Depot.Proofs.Exchanges
import Depot.Proofs.BatchDeletion
import Depot.Proofs.Truncation
import Depot.Proofs.Parts
import Depot.Proofs.Commits
import Depot.Proofs.Cutting
import Depot.Proofs.Settling
import Depot.Proofs.Enclosure
import Depot.Proofs.Classification
import Depot.Proofs.Resolution
import Depot.Proofs.Uris
import Depot.Proofs.Ownership
import Depot.Proofs.Entities
import Depot.Proofs.Renderings
import Depot.Proofs.Agreement
import Depot.Proofs.Bursts
import Depot.Proofs.Damage
import Depot.Proofs.Contents
import Depot.Proofs.Creation
import Depot.Proofs.Removal
import Depot.Proofs.Normalization
import Depot.Proofs.Encoding
import Depot.Proofs.Signing
import Depot.Proofs.Verbatim
import Depot.Proofs.Documents
import Depot.Proofs.Layout
import Depot.Proofs.Requirements
import Depot.Proofs.Flattening
