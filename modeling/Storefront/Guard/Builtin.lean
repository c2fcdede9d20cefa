import Storefront.Guard.Catalog

/-!
The guards of the setup procedure that are understood from the start. Where two entries accept the
same expression, the one that stands first counts.
-/

namespace Storefront.Guard

/-- Patterns that the entries share. -/
def builtinHelpers : Pattern.Helpers := [
  ("main", "(ident :Main)"),
  ("npc", "(ident :NPC)"),
  ("my_player", "(index (member #main :player) (member #main :myPlayer))"),
  ("local_player", "\x7b#my_player (member #main :LocalPlayer)\x7d"),
  ("moon_phase", "(member #main :moonPhase)"),
  ("day_time", "(member #main :dayTime)"),
  ("hard_mode", "(member #main :hardMode)"),
  ("number", "\x7b(int _) (float _)\x7d")]

/-- An entry without numbers. -/
def entry (tag : Tag) (pattern : String) : Entry := ⟨tag, pattern, .nothing⟩

/-- The time of day. The night is only met under a second negation, since a single one is taken
off before the entries are tried. -/
def timeEntries : List Entry := [
  entry .timeDay "#day_time",
  entry .timeNight "(not #day_time)"]

/-- Where the player is. -/
def zoneEntries : List Entry := [
  entry .inDungeon "(member #local_player :ZoneDungeon)",
  entry .inCorrupt "(member #local_player :ZoneCorrupt)",
  entry .inHallow "(member #local_player :ZoneHallow)",
  entry .inMeteor "(member #local_player :ZoneMeteor)",
  entry .inJungle "(member #local_player :ZoneJungle)",
  entry .inSnow "(member #local_player :ZoneSnow)",
  entry .inCrimson "(member #local_player :ZoneCrimson)",
  entry .inWaterCandle "(member #local_player :ZoneWaterCandle)",
  entry .inPeaceCandle "(member #local_player :ZonePeaceCandle)",
  entry .inTowerSolar "(member #local_player :ZoneTowerSolar)",
  entry .inTowerVortex "(member #local_player :ZoneTowerVortex)",
  entry .inTowerNebula "(member #local_player :ZoneTowerNebula)",
  entry .inTowerStardust "(member #local_player :ZoneTowerStardust)",
  entry .inDesert "(member #local_player :ZoneDesert)",
  entry .inGlowshroom "(member #local_player :ZoneGlowshroom)",
  entry .inUndergroundDesert "(member #local_player :ZoneUndergroundDesert)",
  entry .inSkyHeight ("\x7b(member #local_player :ZoneSkyHeight) (lt (cast _ (paren (div " ++
    "(member (member #my_player :position) :Y) 16.0))) (mul (member #main :worldSurface) " ++
    "0.35))\x7d"),
  entry .inOverworldHeight "(member #local_player :ZoneOverworldHeight)",
  entry .inDirtLayerHeight "(member #local_player :ZoneDirtLayerHeight)",
  entry .inRockLayerHeight "(member #local_player :ZoneRockLayerHeight)",
  entry .inUnderworldHeight "(member #local_player :ZoneUnderworldHeight)",
  entry .inBeach "(member #local_player :ZoneBeach)",
  entry .inRain "(member #local_player :ZoneRain)",
  entry .inSandstorm "(member #local_player :ZoneSandstorm)",
  entry .inOldOnesArmy "(member #local_player :ZoneOldOneArmy)",
  entry .inGranite "(member #local_player :ZoneGranite)",
  entry .inMarble "(member #local_player :ZoneMarble)",
  entry .inHive "(member #local_player :ZoneHive)",
  entry .inGemCave "(member #local_player :ZoneGemCave)",
  entry .inLihzhardTemple "(member #local_player :ZoneLihzhardTemple)",
  entry .inGraveyard "(member #local_player :ZoneGraveyard)",
  entry .inAether "(member #local_player :ZoneShimmer)",
  entry .inShoppingZoneForest "(member #local_player :ShoppingZone_Forest)",
  entry .inBelowSurface "(member #local_player :ShoppingZone_BelowSurface)"]

/-- What the world is like. A conjunction of two flags is one entry, which counts before the flags
each on their own would. -/
def worldEntries : List Entry := [
  entry .hardmode "#hard_mode",
  entry .smashedShadowOrb "(member (ident :WorldGen) :shadowOrbSmashed)",
  entry .crimsonWorld "(member (ident :WorldGen) :crimson)",
  entry .drunkWorld "(member #main :drunkWorld)",
  entry .remixWorld "(member #main :remixWorld)",
  entry .notTheBeesWorld "(member #main :notTheBeesWorld)",
  entry .forTheWorthyWorld "(member #main :getGoodWorld)",
  entry .tenthAnniversaryWorld "(member #main :tenthAnniversaryWorld)",
  entry .dontStarveWorld "(member #main :dontStarveWorld)",
  entry .noTrapsWorld "(member #main :noTrapsWorld)",
  entry .zenithWorld "(and (member #main :remixWorld) (member #main :getGoodWorld))",
  entry .notZenithWorld ("(or (not (member #main :remixWorld)) (not (member #main " ++
    ":getGoodWorld)))")]

/-- What is going on. The last of the entries for eclipse and blood moon looks at the flags of the
world, not at those of the events. -/
def eventEntries : List Entry := [
  entry .christmas "(member #main :xMas)",
  entry .halloween "(member #main :halloween)",
  entry .bloodMoon "(member #main :bloodMoon)",
  entry .eclipse "(member #main :eclipse)",
  entry .eclipseOrBloodMoon ("\x7b(or (member #main :bloodMoon) (member #main :eclipse)) (or " ++
    "(member #main :eclipse) (member #main :bloodMoon))\x7d"),
  entry .notEclipseAndNotBloodMoon ("(and (not (member #main :remixWorld)) (not (member #main " ++
    ":getGoodWorld)))"),
  entry .thunderstorm "(member #main :IsItStorming)",
  entry .birthdayParty "(member (ident :BirthdayParty) :PartyIsUp)",
  entry .lanternNight "(member (ident :LanternNight) :LanternsUp)",
  entry .happyWindyDay "(member #main :IsItAHappyWindyDay)"]

/-- Which enemies are defeated. Two unrelated guards have the meaning of blood moon or hard mode. -/
def bossEntries : List Entry := [
  entry .downedKingSlime "(member #npc :downedSlimeKing)",
  entry .downedEyeOfCthulhu "(member #npc :downedBoss1)",
  entry .downedEowOrBoc "(member #npc :downedBoss2)",
  entry .downedQueenBee "(member #npc :downedQueenBee)",
  entry .downedSkeletron "(member #npc :downedBoss3)",
  entry .downedDeerclops "(member #npc :downedDeerclops)",
  entry .downedQueenSlime "(member #npc :downedQueenSlime)",
  entry .downedEarlygameBoss ("(or (or (or (or (member (ident \x7b:Main :NPC\x7d) :downedBoss1) " ++
    "(member #npc :downedBoss2)) (member #npc :downedBoss3)) (member #npc :downedQueenBee)) " ++
    "#hard_mode)"),
  entry .downedMechBossAny "(member #npc :downedMechBossAny)",
  entry .downedTwins "(member #npc :downedMechBoss2)",
  entry .downedDestroyer "(member #npc :downedMechBoss1)",
  entry .downedSkeletronPrime "(member #npc :downedMechBoss3)",
  entry .downedMechBossAll ("(or (or (member (ident \x7b:Main :NPC\x7d) :downedMechBoss1) " ++
    "(member #npc :downedMechBoss2)) (member #npc :downedMechBoss3))"),
  entry .downedPlantera "(member #npc :downedPlantBoss)",
  entry .downedEmpressOfLight "(member #npc :downedEmpressOfLight)",
  entry .downedDukeFishron "(member #npc :downedFishron)",
  entry .downedGolem "(member #npc :downedGolemBoss)",
  entry .downedMourningWood "(member #npc :downedHalloweenTree)",
  entry .downedPumpking "(member #npc :downedHalloweenKing)",
  entry .downedEverscream "(member #npc :downedChristmasTree)",
  entry .downedSantaNK1 "(member #npc :downedChristmasSantank)",
  entry .downedIceQueen "(member #npc :downedChristmasIceQueen)",
  entry .downedCultist "(member #npc :downedAncientCultist)",
  entry .downedMoonLord "(member #npc :downedMoonlord)",
  entry .downedClown "(member #npc :downedClown)",
  entry .downedGoblinArmy "(member #npc :downedGoblins)",
  entry .downedPirates "(member #npc :downedPirates)",
  entry .downedMartians "(member #npc :downedMartians)",
  entry .downedFrostLegion "(member #npc :downedFrost)",
  entry .downedSolarPillar "(member #npc :downedTowerSolar)",
  entry .downedVortexPillar "(member #npc :downedTowerVortex)",
  entry .downedNebulaPillar "(member #npc :downedTowerNebula)",
  entry .downedStardustPillar "(member #npc :downedTowerStardust)",
  entry .bloodMoonOrHardmode "(or (member #main :bloodMoon) #hard_mode)",
  entry .bloodMoonOrHardmode "(or (not #day_time) (member #main :eclipse))",
  entry .multiplayer "(eq (member #main :netMode) 1)"]

/-- The phases of the moon. -/
def moonEntries : List Entry := [
  entry .moonPhaseFull "(eq #moon_phase 0)",
  entry .moonPhaseWaningGibbous "(eq #moon_phase 1)",
  entry .moonPhaseThirdQuarter "(eq #moon_phase 2)",
  entry .moonPhaseWaningCrescent "(eq #moon_phase 3)",
  entry .moonPhaseNew "(eq #moon_phase 4)",
  entry .moonPhaseWaxingCrescent "(eq #moon_phase 5)",
  entry .moonPhaseFirstQuarter "(eq #moon_phase 6)",
  entry .moonPhaseWaxingGibbous "(eq #moon_phase 7)",
  entry .moonPhasesQuarter0 ("\x7b(or (eq #moon_phase 0) (eq #moon_phase 1)) (eq (div " ++
    "#moon_phase 2) 0) (le #moon_phase 1)\x7d"),
  entry .moonPhasesQuarter1 ("\x7b(or (eq #moon_phase 2) (eq #moon_phase 3)) (eq (div " ++
    "#moon_phase 2) 1) (le #moon_phase 3)\x7d"),
  entry .moonPhasesQuarter2 ("\x7b(or (eq #moon_phase 4) (eq #moon_phase 5)) (eq (div " ++
    "#moon_phase 2) 2) (le #moon_phase 5)\x7d"),
  entry .moonPhasesQuarter3 ("\x7b(or (eq #moon_phase 6) (eq #moon_phase 7)) (eq (div " ++
    "#moon_phase 2) 3) (le #moon_phase 7)\x7d"),
  entry .moonPhasesHalf0 "\x7b(eq (div #moon_phase 4) 0) (lt #moon_phase 4)\x7d",
  entry .moonPhasesHalf1 "\x7b(eq (div #moon_phase 4) 1) (ge #moon_phase 4)\x7d",
  entry .moonPhasesEven ("\x7b(eq (mod #moon_phase 2) 0) (ne (mod #moon_phase 2) 1) (paren (or " ++
    "(or (or (eq #moon_phase 0) (eq #moon_phase 2)) (eq #moon_phase 4)) (eq #moon_phase " ++
    "6)))\x7d"),
  entry .moonPhasesOdd ("\x7b(ne (mod #moon_phase 2) 0) (eq (mod #moon_phase 2) 1) (paren (or " ++
    "(or (or (eq #moon_phase 1) (eq #moon_phase 3)) (eq #moon_phase 5)) (eq #moon_phase " ++
    "7)))\x7d"),
  entry .moonPhasesNearNew "(and (ge #moon_phase 3) (le #moon_phase 5))",
  entry .moonPhasesEvenQuarters ("(or (or (or (eq #moon_phase 0) (eq #moon_phase 1)) (eq " ++
    "#moon_phase 4)) (eq #moon_phase 5))"),
  entry .moonPhasesOddQuarters ("(or (or (or (eq #moon_phase 2) (eq #moon_phase 3)) (eq " ++
    "#moon_phase 6)) (eq #moon_phase 7))"),
  entry .moonPhases04 "(eq (mod #moon_phase 4) 0)",
  entry .moonPhases15 "(eq (mod #moon_phase 4) 1)",
  entry .moonPhases26 "(eq (mod #moon_phase 4) 2)",
  entry .moonPhases37 "(eq (mod #moon_phase 4) 3)"]

/-- Guards with several parts. A bare name compared with a million is a number of coins whatever
the name, so this entry stands before those for golf scores. -/
def compositeEntries : List Entry := [
  entry .downedB2B3HM ("(or (or (member #npc :downedBoss2) (member #npc :downedBoss3)) " ++
    "#hard_mode)"),
  entry .worldGenSilver "(eq (member (member (ident :WorldGen) :SavedOreTiers) :Silver) 168)",
  entry .nightAfterEvilOrHardmode ("(or (paren (and (member #npc :downedBoss2) (not " ++
    "#day_time))) #hard_mode)"),
  entry .moonPhasesHalf1AndHardmode "(and (ge #moon_phase 4) #hard_mode)",
  entry .hardmodeOrFTW "(or #hard_mode (not (member #main :getGoodWorld)))",
  entry .inBeach2 ("(and (lt (cast _ (paren (div (member (member #main :screenPosition) :Y) " ++
    "#number))) (add (member #main :worldSurface) #number)) (paren (or (lt _ #number) (gt _ " ++
    "(sub (member #main :maxTilesX) #number)))))"),
  entry .atLeastXHealth ("(eq (member (member #main :LocalPlayer) :ConsumedLifeCrystals) " ++
    "(member (ident :Player) :LifeCrystalMax))"),
  entry .atLeastXMana ("(eq (member (member #main :LocalPlayer) :ConsumedManaCrystals) (member " ++
    "(ident :Player) :ManaCrystalMax))"),
  entry .platinumCoin "(ge (ident _) 1000000)",
  entry .styleMoon ("(or (paren (and (eq (mod #moon_phase 2) 0) #day_time)) (paren (and (eq " ++
    "(mod #moon_phase 2) 1) (not #day_time))))"),
  entry .onTeam "(ne (member #my_player :team) 0)",
  entry .periodically1 "(le (mul (mul (mod (member #main :time) 60.0) 60.0) 6.0) 10800.0)"]

/-- Guards that give numbers. -/
def numberedEntries : List Entry := [
  ⟨.playerCarriesItem, "(call (member #my_player :HasItem) $(int _))", .integer⟩,
  ⟨.playerCarriesItem, "(or (call (member #my_player :HasItem) $(int _)) (call (member " ++
    "#my_player :HasItem) $(int _)))", .integerPair⟩,
  ⟨.golfScoreOver, "(and (lt (ident _) 38) \x7b(gt (ident :golferScoreAccumulated*) $(int _)) " ++
    "(ge (ident :golferScoreAccumulated*) $(int _))\x7d)", .integer⟩,
  ⟨.golfScoreOver, "\x7b(gt (ident :golferScoreAccumulated*) $(int _)) (ge (ident " ++
    ":golferScoreAccumulated*) $(int _))\x7d", .integer⟩,
  ⟨.golfScoreOver, "\x7b(gt (member #local_player :golferScoreAccumulated) $(int _)) (ge " ++
    "(member #local_player :golferScoreAccumulated) $(int _))\x7d", .integer⟩,
  ⟨.npcIsPresent, "(call (member #npc :AnyNPCs) $(int _))", .integer⟩,
  ⟨.bestiaryFilledPercent, "(ge (member (ident :bestiaryProgressReport) :CompletionPercent) " ++
    "$(float _))", .percent⟩]

/-- All entries in the order in which they are tried. -/
def builtinEntries : List Entry :=
  timeEntries ++ zoneEntries ++ worldEntries ++ eventEntries ++ bossEntries ++ moonEntries ++
    compositeEntries ++ numberedEntries

/-- The catalog that is used unless another one is given. -/
def builtinCatalog : Catalog := .compile builtinHelpers builtinEntries

end Storefront.Guard
