import MapPainter.Arguments
import MapPainter.Config
import MapPainter.Config.Document
import MapPainter.Config.File
import MapPainter.Draws
import MapPainter.Draws.ChaCha
import MapPainter.Draws.Seed
import MapPainter.Draws.SipHash
import MapPainter.Fault
import MapPainter.FileTree
import MapPainter.Gradient
import MapPainter.ImageFile.Adler
import MapPainter.ImageFile.Bits
import MapPainter.ImageFile.Bmp
import MapPainter.ImageFile.Bytes
import MapPainter.ImageFile.Crc
import MapPainter.ImageFile.Inflate
import MapPainter.ImageFile.Picture
import MapPainter.ImageFile.Png
import MapPainter.ImageFile.Png.Chunk
import MapPainter.ImageFile.Png.Header
import MapPainter.ImageFile.Png.Notes
import MapPainter.ImageFile.Png.Preamble
import MapPainter.ImageFile.PrefixCode
import MapPainter.Import
import MapPainter.Journal
import MapPainter.Journal.Directive
import MapPainter.Journal.FieldValue
import MapPainter.Journal.Filter
import MapPainter.Layer
import MapPainter.Layer.Assignment
import MapPainter.Layer.Brush
import MapPainter.Layer.Ground
import MapPainter.Layer.Paint
import MapPainter.Layer.Trees
import MapPainter.Layer.Water
import MapPainter.Main
import MapPainter.Path
import MapPainter.Pattern
import MapPainter.Pattern.CharacterSet
import MapPainter.Pattern.Depth
import MapPainter.Pattern.Piece
import MapPainter.Pattern.Switches
import MapPainter.Program
import MapPainter.Projection
import MapPainter.Projection.Sweep
import MapPainter.Proofs.Config.Document
import MapPainter.Proofs.Config.File
import MapPainter.Proofs.Division
import MapPainter.Proofs.Draws
import MapPainter.Proofs.Draws.Shares
import MapPainter.Proofs.FileTree
import MapPainter.Proofs.Gradient
import MapPainter.Proofs.Gradient.Band
import MapPainter.Proofs.Gradient.Checked
import MapPainter.Proofs.Gradient.Edges
import MapPainter.Proofs.Gradient.Ends
import MapPainter.Proofs.Gradient.Monotone
import MapPainter.Proofs.Gradient.Reach
import MapPainter.Proofs.Gradient.Spread
import MapPainter.Proofs.Import.Abreast
import MapPainter.Proofs.Import.Again
import MapPainter.Proofs.Import.Census
import MapPainter.Proofs.Import.Chance
import MapPainter.Proofs.Import.Dark
import MapPainter.Proofs.Import.Frame
import MapPainter.Proofs.Import.History
import MapPainter.Proofs.Import.Locality
import MapPainter.Proofs.Import.Order
import MapPainter.Proofs.Import.Overpaint
import MapPainter.Proofs.Import.Pass
import MapPainter.Proofs.Import.Planted
import MapPainter.Proofs.Import.Probe
import MapPainter.Proofs.Import.Run
import MapPainter.Proofs.Import.Session
import MapPainter.Proofs.Import.Turns
import MapPainter.Proofs.Import.Water
import MapPainter.Proofs.Import.Waterway
import MapPainter.Proofs.Import.Zone
import MapPainter.Proofs.Layer.Again
import MapPainter.Proofs.Layer.Assignment
import MapPainter.Proofs.Layer.Checked
import MapPainter.Proofs.Layer.Frame
import MapPainter.Proofs.Layer.Plan
import MapPainter.Proofs.Layer.Planting
import MapPainter.Proofs.Layer.Sound
import MapPainter.Proofs.Layer.Steady
import MapPainter.Proofs.Layer.Suits
import MapPainter.Proofs.Layer.Touch
import MapPainter.Proofs.Layer.Watered
import MapPainter.Proofs.Layer.Waterway
import MapPainter.Proofs.Layer.Way
import MapPainter.Proofs.Layer.Words
import MapPainter.Proofs.Layer.Zone
import MapPainter.Proofs.Outcome
import MapPainter.Proofs.Path
import MapPainter.Proofs.Projection.Abort
import MapPainter.Proofs.Projection.Accuracy
import MapPainter.Proofs.Projection.Axis
import MapPainter.Proofs.Projection.Calls
import MapPainter.Proofs.Projection.Coverage
import MapPainter.Proofs.Projection.Crop
import MapPainter.Proofs.Projection.Enlargement
import MapPainter.Proofs.Projection.Fit
import MapPainter.Proofs.Projection.Footprint
import MapPainter.Proofs.Projection.Margins
import MapPainter.Proofs.Projection.Overrun
import MapPainter.Proofs.Projection.Proportion
import MapPainter.Proofs.Projection.Sampling
import MapPainter.Proofs.Projection.Totality
import MapPainter.Proofs.Projection.Turn
import MapPainter.Proofs.Raster.Folder
import MapPainter.Proofs.Raster.Layout
import MapPainter.Proofs.Raster.Pixels
import MapPainter.Proofs.Raster.Stocked
import MapPainter.Proofs.Ron.Layout
import MapPainter.Proofs.Ron.Token
import MapPainter.Proofs.Species
import MapPainter.Proofs.Text
import MapPainter.Proofs.Tile.Coherent
import MapPainter.Proofs.Tile.Edit
import MapPainter.Proofs.TileMap
import MapPainter.Proofs.TileMap.Census
import MapPainter.Proofs.TileMap.Edits
import MapPainter.Proofs.TileMap.Numbering
import MapPainter.Raster.Folder
import MapPainter.Raster.Pixels
import MapPainter.Raster.Source
import MapPainter.Ron.Attribute
import MapPainter.Ron.Blank
import MapPainter.Ron.Layout
import MapPainter.Ron.Name
import MapPainter.Ron.Number
import MapPainter.Ron.Quoted
import MapPainter.Ron.Range
import MapPainter.Ron.Record
import MapPainter.Ron.Value
import MapPainter.Settings
import MapPainter.Species
import MapPainter.Text.Alphabetic
import MapPainter.Text.Alphanumeric
import MapPainter.Text.Blank
import MapPainter.Text.Digit
import MapPainter.Text.NameCharacter
import MapPainter.Text.Numbered
import MapPainter.Text.Part
import MapPainter.Text.Ranges
import MapPainter.Text.Reader
import MapPainter.Tile
import MapPainter.Tile.Edit
import MapPainter.TileMap
import MapPainter.TileMap.Census
