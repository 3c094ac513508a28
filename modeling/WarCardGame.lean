import WarCardGame.Lib.Handler
import WarCardGame.Lib.Machine
import WarCardGame.Lib.Rows
import WarCardGame.Model.Entities
import WarCardGame.Model.Repositories
import WarCardGame.Model.CardsService
import WarCardGame.Model.GameService
import WarCardGame.Model.Controllers
import WarCardGame.Service.Effects
import WarCardGame.Service.Requests
import WarCardGame.Server.Step
import WarCardGame.Server.Tables
import WarCardGame.Server.Piles
import WarCardGame.Server.Plays
import WarCardGame.Server.Turns
import WarCardGame.Server.Sessions
import WarCardGame.Server.NewGame
import WarCardGame.Lib.War
import WarCardGame.Game.Hands
import WarCardGame.Game.Rounds
import WarCardGame.Game.Simulation
import WarCardGame.Lib.WarEndings
import WarCardGame.Game.Announcements
import WarCardGame.Game.Conservation
import WarCardGame.Server.Views
import WarCardGame.Server.Isolation
import WarCardGame.Lib.Tasks
import WarCardGame.Model.Tasks
import WarCardGame.Server.Joins
import WarCardGame.Server.Deals
import WarCardGame.Server.SimultaneousDeals
import WarCardGame.Server.Lobby
import WarCardGame.Server.Outcomes
import WarCardGame.Server.Renaming
import WarCardGame.Lib.Recursion
import WarCardGame.Service.Wars
import WarCardGame.Server.Displays
import WarCardGame.Client.Browser
import WarCardGame.Client.Pages
import WarCardGame.Client.Authority
import WarCardGame.Server.Leaving
import WarCardGame.Client.Evictions
import WarCardGame.Server.SimultaneousPlays
import WarCardGame.Game.Progress
import WarCardGame.Client.Pictures
import WarCardGame.Server.LastDeals
import WarCardGame.Server.Lifecycle
