import SpaceInvaders.Control.Cleanup
import SpaceInvaders.Control.CommandHandler
import SpaceInvaders.Control.Grouping
import SpaceInvaders.Control.IdleTime
import SpaceInvaders.Control.Isolation
import SpaceInvaders.Control.KeyboardErrors
import SpaceInvaders.Control.MouseReports
import SpaceInvaders.Control.NewGame
import SpaceInvaders.Control.Packets
import SpaceInvaders.Control.Scancodes
import SpaceInvaders.Control.Settings
import SpaceInvaders.Control.TimerFrequency
import SpaceInvaders.Control.TimerRequests
import SpaceInvaders.Game.Crossing
import SpaceInvaders.Game.LiveScore
import SpaceInvaders.Game.ScoreScreens
import SpaceInvaders.Game.Screen
import SpaceInvaders.Game.Shields
import SpaceInvaders.Game.ShotCount
import SpaceInvaders.Game.Sprites
import SpaceInvaders.Game.Turns
import SpaceInvaders.Game.Winning
import SpaceInvaders.Table.Append
import SpaceInvaders.Table.Best
import SpaceInvaders.Table.Load
import SpaceInvaders.Table.Sorting
import SpaceInvaders.Video.Areas
import SpaceInvaders.Video.Move
import SpaceInvaders.Video.Pattern
import SpaceInvaders.Video.ResultScreen
import SpaceInvaders.Video.Fitting
